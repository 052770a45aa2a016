import Hydration.Proofs.Config.Documents
import Hydration.Proofs.ResultMap

/-!
# Loading and building

A result map is made in two ways: by calls on a map that only has an id, or from a document.  A
document presents calls when it writes the id, the properties in the order of the calls and the
arguments of the last call that gives any.

    Presents j id calls  →  resultMap? j = some (built id calls)
    resultMap? j = some m  →  j presents calls that make m   (both: loading_agrees_with_building)
    Incomplete j  →  resultMap? j = none                                 (Incomplete.refused)
-/

namespace Hydration.Config

/-! ## Algorithm -/

/-- The names of the fields of a result map. -/
abbrev resultMapNames : List String := ["id", "properties", "constructor"]

/-- The names of the fields of an argument. -/
abbrev argumentNames : List String := ["column", "ty", "name", "nullable", "type_handler"]

/-- A document presents the parts of which calls make a map. -/
def Presents (j : Json) (id : String) (calls : List BuilderCall) : Prop :=
  WritesResultMap j id (BuilderCall.properties calls) (BuilderCall.arguments calls)

/-- `a` is an argument in the document of a result map. -/
def HoldsArgument (j a : Json) : Prop :=
  ∃ constructor items, Holds resultMapNames "constructor" constructor j ∧
    Holds ["args"] "args" (.array items) constructor ∧ a ∈ items

/-- A document of a result map leaves out the name of a property, the column or the kind of an
argument, or the name or the variants of an enumeration. -/
inductive Incomplete (j : Json) : Prop
  | property {members : List (Option String × Json)} {m : Option String × Json}
    (properties : Holds resultMapNames "properties" (.object members) j)
    (mem : m ∈ members) (lacks : Lacks ["name", "type_handler"] "name" m.2) : Incomplete j
  | argument {a : Json} {name : String} (argument : HoldsArgument j a)
    (needed : name = "column" ∨ name = "ty")
    (lacks : Lacks argumentNames name a) : Incomplete j
  | enumeration {a e : Json} {members : List (Option String × Json)} {name : String}
    (argument : HoldsArgument j a)
    (kind : Holds argumentNames "ty" (.object members) a)
    (mem : (some "Enum", e) ∈ members) (needed : name = "name" ∨ name = "variants")
    (lacks : Lacks ["name", "variants"] name e) : Incomplete j

/-! ## Lemmas -/

/-- What a document holds as an argument writes one, if the document is read at all. -/
theorem HoldsArgument.exists_writes {j a : Json} {id : String} {ps : List Property}
    {as : Option (List Argument)} (h : HoldsArgument j a) (hwrites : WritesResultMap j id ps as) :
    ∃ x, WritesArgument a x := by
  obtain ⟨constructor, items, hconstructor, hitems, ha⟩ := h
  obtain @⟨idDoc, properties, arguments, fields, -, -, hargs⟩ := hwrites
  have hgiven : arguments = some constructor := fields.eq_of_holds (by simp) (by simp) hconstructor
  subst hgiven
  obtain ⟨_ | ⟨@⟨args, argFields, hlist⟩⟩⟩ := hargs
  · cases hitems
  · have hgiven : args = some (.array items) := argFields.eq_of_holds (by simp) (by simp) hitems
    subst hgiven
    obtain ⟨⟨hall⟩⟩ := hlist
    exact exists_of_forall₂ hall ha

/-- An object with the key `Enum` is no kind but that of an enumeration. -/
theorem exists_writesEnumeration {members : List (Option String × Json)} {e : Json} {k : Kind}
    (h : WritesKind (.object members) k) (hmem : (some "Enum", e) ∈ members) :
    ∃ x, WritesEnumeration e x := by
  cases h with
  | key scalar =>
    have hkey : some "Enum" = some k.name := congrArg Prod.fst (List.mem_singleton.1 hmem)
    exact absurd (Option.some.inj hkey).symm (name_ne_of_scalar scalar)
  | enum writes =>
    cases List.mem_singleton.1 hmem
    exact ⟨_, writes⟩

/-- What must be given may not be left out. -/
theorem Incomplete.refused {j : Json} (h : Incomplete j) : resultMap? j = none := by
  -- A document that is read writes a result map, and what writes one holds all that must be given.
  rw [Option.eq_none_iff_forall_ne_some]
  intro m hm
  obtain ⟨ps, hwrites, -⟩ := resultMap?_eq_some_iff.1 hm
  cases h with
  | @property members _ holds mem lacks =>
    obtain @⟨idDoc, properties, arguments, fields, -, hps, -⟩ := hwrites
    have hgiven : properties = some (.object members) :=
      fields.eq_of_holds (by simp) (by simp) holds
    subst hgiven
    obtain ⟨⟨hall⟩⟩ := hps
    obtain ⟨p, ⟨fields, hname, -⟩⟩ := exists_of_forall₂ hall mem
    exact fields.not_lacks List.mem_cons_self hname lacks
  | argument holds needed lacks =>
    obtain ⟨x, ⟨fields, hcolumn, hkind, -⟩⟩ := holds.exists_writes hwrites
    rcases needed with rfl | rfl
    · exact fields.not_lacks (by simp) hcolumn lacks
    · exact fields.not_lacks (by simp) hkind lacks
  | @enumeration a e members _ holds holdsKind mem needed lacks =>
    obtain ⟨x, @⟨column, kind, name, nullable, handler, fields, -, hkind, -⟩⟩ :=
      holds.exists_writes hwrites
    have hgiven : kind = some (.object members) :=
      fields.eq_of_holds (by simp) (by simp) holdsKind
    subst hgiven
    obtain ⟨hkind⟩ := hkind
    obtain ⟨y, ⟨fields, hname, hvariants⟩⟩ := exists_writesEnumeration hkind mem
    rcases needed with rfl | rfl
    · exact fields.not_lacks (by simp) hname lacks
    · exact fields.not_lacks (by simp) hvariants lacks

/-! ## Top theorems -/

/-- A document that presents calls is read as the map that the calls make: equal to it, with the
same columns in the same order.  A repeated column keeps its first place and has its last property.
Any calls can be presented, nothing else is read, and a document that leaves out what must be given
is refused. -/
theorem loading_agrees_with_building (id : String) (calls : List BuilderCall) :
    (∀ j, Presents j id calls → ∃ m, resultMap? j = some m ∧ m = ResultMap.built id calls ∧
      m.same (ResultMap.built id calls) = true ∧
      m.properties.keys = ((BuilderCall.properties calls).map Property.column).eraseDups ∧
      ∀ column, m.properties.find? column =
        (BuilderCall.properties calls).reverse.find? fun p => p.column == column) ∧
    (∃ j, Presents j id calls) ∧
    (∀ j m, resultMap? j = some m → ∃ id calls, Presents j id calls ∧ m = ResultMap.built id calls) ∧
    ∀ j, Incomplete j → resultMap? j = none := by
  have hbuilt := BuilderCall.built_eq id calls
  refine ⟨fun j hpresents => ⟨_, ?_, rfl, ResultMap.same_self _, ?_, fun column => ?_⟩,
    exists_writesResultMap _ _ _, fun j m hread => ?_, fun j h => h.refused⟩
  · rw [hbuilt]
    exact resultMap?_eq_some_iff.2 ⟨_, hpresents, rfl⟩
  · rw [hbuilt]
    exact Roster.keys_ofList _
  · rw [hbuilt]
    exact Roster.find?_ofList _ column
  · obtain ⟨ps, hwrites, hroster⟩ := resultMap?_eq_some_iff.1 hread
    obtain ⟨made, hps, has⟩ := BuilderCall.exists_calls ps m.arguments
    refine ⟨m.id, made, ?_, ?_⟩
    · rw [Presents, hps, has]
      exact hwrites
    · rw [BuilderCall.built_eq, hps, has, ← hroster]

/-! ### An invoice -/

/-- The number of an invoice, as an array that ends before the fields that have their defaults. -/
def numberDocument : Json :=
  .array [.string (some "number"), .string (some "I64"), .string (some "id")]

/-- The state of an invoice, as an object with a member that is no field. -/
def stateDocument : Json :=
  .object [(some "nullable", .bool true), (some "comment", .number "1"),
    (some "ty", .object [(some "Enum", .object [
      (some "variants", .array [.string (some "Open"), .string (some "Paid")]),
      (some "name", .string (some "State"))])]),
    (some "name", .null), (some "column", .string (some "state"))]

def invoiceArguments : List Argument :=
  [⟨"number", .int .i64, some "id", false, none⟩,
    ⟨"state", .enum ⟨"State", ["Open", "Paid"]⟩, none, true, none⟩]

/-- The properties of an invoice.  The first column comes again. -/
def invoiceProperties : Json :=
  .object [(some "amount", .object [(some "name", .string (some "sum"))]),
    (some "note", .array [.string (some "text"), .string (some "Trim")]),
    (some "amount", .object [(some "type_handler", .null), (some "name", .string (some "total"))])]

def invoiceDocument : Json :=
  .object [(some "constructor", .array [.array [numberDocument, stateDocument]]),
    (some "version", .number "2"), (some "properties", invoiceProperties)]

def invoiceCalls : List BuilderCall :=
  [.withArguments [], .property "amount" "sum", .withArguments invoiceArguments,
    .propertyWithHandler "note" "text" "Trim", .property "amount" "total"]

/-- The only property has a member `Name`, which is no field, and no name. -/
def namelessDocument : Json :=
  .object [(some "properties", .object [(some "amount", .object [(some "Name", .null)])])]

theorem writes_number :
    WritesArgument numberDocument ⟨"number", .int .i64, some "id", false, none⟩ := by
  have hkind : WritesKind (.string (some "I64")) (.int .i64) := by
    have hname : (Kind.int .i64).name = "I64" := by decide +kernel
    rw [← hname]
    exact .name rfl
  exact .written (.array (n := 2) rfl) (.given rfl) (.given hkind) (.given (.value rfl)) .leftOut
    .leftOut

theorem writes_state :
    WritesArgument stateDocument
      ⟨"state", .enum ⟨"State", ["Open", "Paid"]⟩, none, true, none⟩ := by
  have henum : WritesEnumeration (.object [
      (some "variants", .array [.string (some "Open"), .string (some "Paid")]),
      (some "name", .string (some "State"))]) ⟨"State", ["Open", "Paid"]⟩ :=
    .written (.of_perm (.swap ..)) (.given rfl) (.given (.array (.cons rfl (.cons rfl .nil))))
  refine .written ((hasFields_object_iff (by simp)).2 ⟨?_, ?_⟩) (.given rfl) (.given (.enum henum))
    (.given .null) (.given rfl) .leftOut
  · simp
  · simp [Sole, asMember]

theorem writes_invoiceProperties :
    WritesProperties invoiceProperties (BuilderCall.properties invoiceCalls) := by
  have hsum : WritesProperty (some "amount", .object [(some "name", .string (some "sum"))])
      ⟨"amount", "sum", none⟩ :=
    .member (p := ⟨"amount", "sum", none⟩) (.of_perm (.refl _)) (.given rfl) .leftOut
  have hnote : WritesProperty (some "note", .array [.string (some "text"), .string (some "Trim")])
      ⟨"note", "text", some "Trim"⟩ :=
    .member (p := ⟨"note", "text", some "Trim"⟩) (.array (n := 0) rfl) (.given rfl)
      (.given (.value rfl))
  have htotal : WritesProperty (some "amount", .object [(some "type_handler", .null),
      (some "name", .string (some "total"))]) ⟨"amount", "total", none⟩ :=
    .member (p := ⟨"amount", "total", none⟩) (.of_perm (.swap ..)) (.given rfl) (.given .null)
  exact .object (.cons hsum (.cons hnote (.cons htotal .nil)))

theorem presents_invoice : Presents invoiceDocument "" invoiceCalls := by
  have harguments : WritesArguments (.array [.array [numberDocument, stateDocument]])
      invoiceArguments :=
    .written (.array (n := 0) rfl) (.given (.array (.cons writes_number (.cons writes_state .nil))))
  refine .written ((hasFields_object_iff (by simp)).2 ⟨?_, ?_⟩) .leftOut
    (.given writes_invoiceProperties) (.given (.value harguments))
  · simp
  · simp [Sole, asMember]

theorem incomplete_nameless : Incomplete namelessDocument := by
  refine .property (.member List.mem_cons_self) List.mem_cons_self fun v h => ?_
  obtain ⟨hmem⟩ := h
  simp at hmem

/-- An invoice is loaded as it is built; without the name of a property it is refused. -/
theorem loading_invoiceDocument :
    Presents invoiceDocument "" invoiceCalls ∧
    (∃ m, resultMap? invoiceDocument = some m ∧ m = ResultMap.built "" invoiceCalls ∧
      m.properties.keys = ["amount", "note"]) ∧
    Incomplete namelessDocument ∧ resultMap? namelessDocument = none := by
  have hloading := loading_agrees_with_building "" invoiceCalls
  obtain ⟨m, hread, hbuilt, -, hkeys, -⟩ := hloading.1 invoiceDocument presents_invoice
  have hcolumns : m.properties.keys = ["amount", "note"] := by
    rw [hkeys]
    rfl
  exact ⟨presents_invoice, ⟨m, hread, hbuilt, hcolumns⟩, incomplete_nameless,
    hloading.2.2.2 namelessDocument incomplete_nameless⟩

end Hydration.Config
