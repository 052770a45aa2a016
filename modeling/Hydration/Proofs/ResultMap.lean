import Hydration.Proofs.Roster
import Hydration.ResultMap

/-!
# Result maps made by calls

Calls on a map that only has an id make a map of that id, of the properties in the order of the
calls, and of the arguments of the last call that gives any.

    built id calls = ⟨id, Roster.ofList (properties calls), arguments calls⟩    (built_eq)
    any properties and arguments are those of some calls                        (exists_calls)
-/

namespace Hydration

/-! ## Algorithm -/

/-- A call on a result map that is being built. -/
inductive BuilderCall where
  | property (column field : String)
  | propertyWithHandler (column field handler : String)
  | withArguments (arguments : List Argument)

namespace BuilderCall

/-- The map after a call. -/
def perform (m : ResultMap) : BuilderCall → ResultMap
  | property column field => m.property column field
  | propertyWithHandler column field handler => m.propertyWithHandler column field handler
  | withArguments arguments => m.withArguments arguments

/-- The property that a call maps. -/
def property? : BuilderCall → Option Property
  | property column field => some ⟨column, field, none⟩
  | propertyWithHandler column field handler => some ⟨column, field, some handler⟩
  | withArguments _ => none

/-- The arguments that a call gives. -/
def arguments? : BuilderCall → Option (List Argument)
  | withArguments arguments => some arguments
  | _ => none

/-- The properties in the order of the calls, repeated columns too. -/
def properties (calls : List BuilderCall) : List Property := calls.filterMap property?

/-- The arguments of the last call that gives any. -/
def arguments (calls : List BuilderCall) : Option (List Argument) :=
  calls.reverse.findSome? arguments?

/-- The call that maps a property. -/
def ofProperty : Property → BuilderCall
  | ⟨column, field, none⟩ => property column field
  | ⟨column, field, some handler⟩ => propertyWithHandler column field handler

end BuilderCall

/-- The result map that calls make, one after the other. -/
def ResultMap.built (id : String) (calls : List BuilderCall) : ResultMap :=
  calls.foldl BuilderCall.perform { id }

/-! ## Lemmas -/

namespace BuilderCall

theorem built_snoc (id : String) (calls : List BuilderCall) (c : BuilderCall) :
    ResultMap.built id (calls ++ [c]) = c.perform (ResultMap.built id calls) := by
  rw [ResultMap.built, List.foldl_append]
  rfl

theorem properties_snoc (calls : List BuilderCall) (c : BuilderCall) :
    properties (calls ++ [c]) = properties calls ++ c.property?.toList := by
  rw [properties, List.filterMap_append, properties]
  cases c <;> rfl

theorem arguments_snoc (calls : List BuilderCall) (c : BuilderCall) :
    arguments (calls ++ [c]) = c.arguments?.or (arguments calls) := by
  rw [arguments, List.reverse_concat, List.findSome?_cons]
  cases c <;> rfl

/-- What calls make, part by part. -/
theorem built_eq (id : String) (calls : List BuilderCall) :
    ResultMap.built id calls = ⟨id, Roster.ofList (properties calls), arguments calls⟩ := by
  induction calls using List.reverseRecOn with
  | nil => rfl
  | append_singleton calls c ih =>
    rw [built_snoc, ih, properties_snoc, arguments_snoc]
    cases c with
    | property column field =>
      rw [property?, Option.toList_some, Roster.ofList_snoc]
      rfl
    | propertyWithHandler column field handler =>
      rw [property?, Option.toList_some, Roster.ofList_snoc]
      rfl
    | withArguments arguments =>
      rw [property?, Option.toList_none, List.append_nil]
      rfl

theorem property?_ofProperty (p : Property) : (ofProperty p).property? = some p := by
  obtain ⟨column, field, handler⟩ := p
  cases handler <;> rfl

theorem arguments?_ofProperty (p : Property) : (ofProperty p).arguments? = none := by
  obtain ⟨column, field, handler⟩ := p
  cases handler <;> rfl

/-- There are calls for any properties and arguments. -/
theorem exists_calls (ps : List Property) (as : Option (List Argument)) :
    ∃ calls, properties calls = ps ∧ arguments calls = as := by
  have hps : properties (ps.map ofProperty) = ps := by
    rw [properties, List.filterMap_map]
    have hsome : property? ∘ ofProperty = some := funext property?_ofProperty
    rw [hsome, List.filterMap_some]
  cases as with
  | none =>
    refine ⟨ps.map ofProperty, hps, ?_⟩
    rw [arguments, List.findSome?_eq_none_iff]
    intro c hc
    obtain ⟨p, -, rfl⟩ := List.mem_map.1 (List.mem_reverse.1 hc)
    exact arguments?_ofProperty p
  | some args =>
    refine ⟨ps.map ofProperty ++ [withArguments args], ?_, ?_⟩
    · rw [properties_snoc, hps]
      exact List.append_nil ps
    · rw [arguments_snoc]
      rfl

end BuilderCall

theorem ResultMap.same_self (m : ResultMap) : m.same m = true := by
  have hfind : ∀ p ∈ m.properties.items, m.properties.find? p.column = some p :=
    fun p hp => Roster.find?_eq_some_iff.2 ⟨hp, rfl⟩
  simp only [same, decide_true, Bool.and_self, Bool.true_and, Bool.and_true, List.all_eq_true,
    decide_eq_true_eq]
  exact hfind

end Hydration
