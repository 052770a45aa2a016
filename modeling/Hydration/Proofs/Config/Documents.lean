import Hydration.Proofs.Config.Fields
import Hydration.Proofs.Roster

/-!
# Documents of result maps

Which documents write a kind, a property, an argument and a whole result map.  Each reader reads
exactly these: it gives what the document writes, and refuses a document that writes nothing of
the sort.

    kind? j = some k  ↔  WritesKind j k                                         (reads_kind)
    property? column j = some p  ↔  WritesProperty (some column, j) p           (reads_property)
    argument? j = some a  ↔  WritesArgument j a                                 (reads_argument)
    resultMap? j = some ⟨id, r, as⟩  ↔  j writes id, properties whose roster is r, and as
                                                                      (resultMap?_eq_some_iff)
-/

namespace Hydration.Config

/-! ## Algorithm -/

inductive WritesEnumeration (j : Json) (e : Enumeration) : Prop
  | written {name variants : Option Json}
    (fields : HasFields [("name", name), ("variants", variants)] j)
    (writesName : WritesRequired WritesText name e.name)
    (writesVariants : WritesRequired (WritesList WritesText) variants e.variants) :
    WritesEnumeration j e

/-- A kind is written by its name, alone or as the key of null, and an enumeration as the value of
the key `Enum`. -/
inductive WritesKind : Json → Kind → Prop
  | name {k : Kind} (scalar : k.enumeration? = none) : WritesKind (.string (some k.name)) k
  | key {k : Kind} (scalar : k.enumeration? = none) : WritesKind (.object [(some k.name, .null)]) k
  | enum {j : Json} {e : Enumeration} (writes : WritesEnumeration j e) :
    WritesKind (.object [(some "Enum", j)]) (.enum e)

/-- A property is written as a member that has its column for the key. -/
inductive WritesProperty : Option String × Json → Property → Prop
  | member {j : Json} {p : Property} {name handler : Option Json}
    (fields : HasFields [("name", name), ("type_handler", handler)] j)
    (writesName : WritesRequired WritesText name p.field)
    (writesHandler : WritesDefaulted none (WritesOptional WritesText) handler p.handler) :
    WritesProperty (some p.column, j) p

/-- Properties are written in their order, repeated columns too. -/
inductive WritesProperties : Json → List Property → Prop
  | object {members : List (Option String × Json)} {ps : List Property}
    (writes : List.Forall₂ WritesProperty members ps) : WritesProperties (.object members) ps

inductive WritesArgument (j : Json) (a : Argument) : Prop
  | written {column kind name nullable handler : Option Json}
    (fields : HasFields [("column", column), ("ty", kind), ("name", name), ("nullable", nullable),
      ("type_handler", handler)] j)
    (writesColumn : WritesRequired WritesText column a.column)
    (writesKind : WritesRequired WritesKind kind a.kind)
    (writesName : WritesDefaulted none (WritesOptional WritesText) name a.name)
    (writesNullable : WritesDefaulted false WritesFlag nullable a.nullable)
    (writesHandler : WritesDefaulted none (WritesOptional WritesText) handler a.handler) :
    WritesArgument j a

/-- The arguments of a constructor are the one field of a structure. -/
inductive WritesArguments (j : Json) (as : List Argument) : Prop
  | written {args : Option Json} (fields : HasFields [("args", args)] j)
    (writesArguments : WritesRequired (WritesList WritesArgument) args as) : WritesArguments j as

/-- A result map is written by its id, its properties one after the other, and its arguments, if
it has any. -/
inductive WritesResultMap (j : Json) (id : String) (ps : List Property)
    (as : Option (List Argument)) : Prop
  | written {idDoc properties arguments : Option Json}
    (fields : HasFields [("id", idDoc), ("properties", properties), ("constructor", arguments)] j)
    (writesId : WritesDefaulted "" WritesText idDoc id)
    (writesProperties : WritesDefaulted [] WritesProperties properties ps)
    (writesArguments : WritesDefaulted none (WritesOptional WritesArguments) arguments as) :
    WritesResultMap j id ps as

/-- The scalar kinds, told apart by their names. -/
def scalarRoster : Roster Kind Kind.name := ⟨scalarKinds, by decide +kernel⟩

/-! ## Lemmas -/

variable {j : Json}

theorem reads_enumeration : Reads enumeration? WritesEnumeration := by
  intro j e
  constructor
  · intro h
    unfold enumeration? at h
    split at h
    · rename_i name variants hfields
      split at h
      · rename_i hname hvariants
        cases h
        exact .written ((fields?_eq_some_iff (by decide) rfl).1 hfields)
          ((reads_text.required _ _).1 hname) ((reads_text.list.required _ _).1 hvariants)
      · cases h
    · cases h
  · rintro ⟨fields, hname, hvariants⟩
    rename_i name variants
    have hfields : fields? ["name", "variants"] j = some [name, variants] :=
      (fields?_eq_some_iff (by decide) rfl).2 fields
    simp only [enumeration?, hfields, (reads_text.required _ _).2 hname,
      (reads_text.list.required _ _).2 hvariants]

theorem mem_scalarKinds_iff {k : Kind} : k ∈ scalarKinds ↔ k.enumeration? = none := by
  cases k with
  | int w => cases w <;> simp [scalarKinds, IntWidth.all, Kind.enumeration?]
  | _ => simp [scalarKinds, IntWidth.all, Kind.enumeration?]

theorem scalarKind?_eq_some_iff {name : String} {k : Kind} :
    scalarKind? name = some k ↔ k.enumeration? = none ∧ k.name = name := by
  rw [← mem_scalarKinds_iff]
  exact Roster.find?_eq_some_iff (r := scalarRoster)

theorem name_ne_of_scalar {k : Kind} (h : k.enumeration? = none) : k.name ≠ "Enum" := by
  have hall : ∀ k ∈ scalarKinds, k.name ≠ "Enum" := by decide +kernel
  exact hall k (mem_scalarKinds_iff.2 h)

theorem reads_kind : Reads kind? WritesKind := by
  intro j k
  constructor
  · intro h
    unfold kind? at h
    split at h
    · obtain ⟨hscalar, rfl⟩ := scalarKind?_eq_some_iff.1 h
      exact .name hscalar
    · rename_i name j
      split at h
      · rename_i hname
        obtain ⟨e, he, rfl⟩ := Option.map_eq_some_iff.1 h
        rw [hname]
        exact .enum ((reads_enumeration j e).1 he)
      · split at h
        · obtain ⟨hscalar, rfl⟩ := scalarKind?_eq_some_iff.1 h
          exact .key hscalar
        · cases h
    · cases h
  · rintro (hscalar | hscalar | hwrites)
    · exact scalarKind?_eq_some_iff.2 ⟨hscalar, rfl⟩
    · rw [kind?, if_neg (name_ne_of_scalar hscalar)]
      exact scalarKind?_eq_some_iff.2 ⟨hscalar, rfl⟩
    · rename_i j e
      have hkind : kind? (.object [(some "Enum", j)]) = (enumeration? j).map .enum := by
        simp [kind?]
      rw [hkind, (reads_enumeration j e).2 hwrites, Option.map_some]

/-- A text or null, for a name that may be absent. -/
theorem reads_optional_text :
    Reads (withDefault none (optional text?)) (WritesDefaulted none (WritesOptional WritesText)) :=
  (reads_text.optional nofun).withDefault none

theorem reads_property {column : String} {p : Property} :
    property? column j = some p ↔ WritesProperty (some column, j) p := by
  constructor
  · intro h
    unfold property? at h
    split at h
    · rename_i name handler hfields
      split at h
      · rename_i hname hhandler
        cases h
        exact .member (p := ⟨column, _, _⟩) ((fields?_eq_some_iff (by decide) rfl).1 hfields)
          ((reads_text.required _ _).1 hname) ((reads_optional_text _ _).1 hhandler)
      · cases h
    · cases h
  · rintro ⟨fields, hname, hhandler⟩
    rename_i name handler
    have hfields : fields? ["name", "type_handler"] j = some [name, handler] :=
      (fields?_eq_some_iff (by decide) rfl).2 fields
    simp only [property?, hfields, (reads_text.required _ _).2 hname,
      (reads_optional_text _ _).2 hhandler]

/-- The properties of an object are put one after the other. -/
theorem properties_eq_some_iff {members : List (Option String × Json)}
    {r s : Roster Property Property.column} :
    properties members r = some s ↔
      ∃ ps, List.Forall₂ WritesProperty members ps ∧ s = ps.foldl Roster.put r := by
  induction members generalizing r with
  | nil =>
    simp only [properties, Option.some.injEq, List.forall₂_nil_left_iff, exists_eq_left,
      List.foldl_nil]
    exact eq_comm
  | cons m rest ih =>
    obtain ⟨key, j⟩ := m
    constructor
    · intro h
      cases key with
      | none => cases h
      | some column =>
        -- The rest is put into the roster that has this property already.
        rw [properties] at h
        split at h
        · rename_i p hp
          obtain ⟨ps, hps, rfl⟩ := ih.1 h
          exact ⟨p :: ps, .cons (reads_property.1 hp) hps, rfl⟩
        · cases h
    · rintro ⟨_, _ | ⟨hp, hps⟩, rfl⟩
      rename_i p ps
      have hrest : properties rest (r.put p) = some (ps.foldl Roster.put (r.put p)) :=
        ih.2 ⟨ps, hps, rfl⟩
      cases hp with
      | member fields hname hhandler =>
        rw [properties, reads_property.2 (.member fields hname hhandler)]
        exact hrest

theorem properties?_eq_some_iff {r : Roster Property Property.column} :
    properties? j = some r ↔ ∃ ps, WritesProperties j ps ∧ r = Roster.ofList ps := by
  constructor
  · intro h
    cases j with
    | object members =>
      obtain ⟨ps, hps, rfl⟩ := properties_eq_some_iff.1 h
      exact ⟨ps, .object hps, rfl⟩
    | _ => cases h
  · rintro ⟨ps, ⟨hps⟩, rfl⟩
    exact properties_eq_some_iff.2 ⟨ps, hps, rfl⟩

theorem withDefault_properties?_eq_some_iff {o : Option Json}
    {r : Roster Property Property.column} :
    withDefault .empty properties? o = some r ↔
      ∃ ps, WritesDefaulted [] WritesProperties o ps ∧ r = Roster.ofList ps := by
  cases o with
  | none =>
    constructor
    · intro h
      cases h
      exact ⟨[], .leftOut, rfl⟩
    · rintro ⟨_, _ | _, rfl⟩
      rfl
  | some j =>
    rw [withDefault, properties?_eq_some_iff]
    constructor
    · rintro ⟨ps, hps, rfl⟩
      exact ⟨ps, .given hps, rfl⟩
    · rintro ⟨ps, ⟨hps⟩, rfl⟩
      exact ⟨ps, hps, rfl⟩

theorem reads_argument : Reads argument? WritesArgument := by
  intro j a
  constructor
  · intro h
    unfold argument? at h
    split at h
    · rename_i column kind name nullable handler hfields
      split at h
      · rename_i hcolumn hkind hname hnullable hhandler
        cases h
        exact .written ((fields?_eq_some_iff (by decide) rfl).1 hfields)
          ((reads_text.required _ _).1 hcolumn) ((reads_kind.required _ _).1 hkind)
          ((reads_optional_text _ _).1 hname) ((reads_flag.withDefault _ _ _).1 hnullable)
          ((reads_optional_text _ _).1 hhandler)
      · cases h
    · cases h
  · rintro ⟨fields, hcolumn, hkind, hname, hnullable, hhandler⟩
    rename_i column kind name nullable handler
    have hfields : fields? ["column", "ty", "name", "nullable", "type_handler"] j =
        some [column, kind, name, nullable, handler] :=
      (fields?_eq_some_iff (by decide) rfl).2 fields
    simp only [argument?, hfields, (reads_text.required _ _).2 hcolumn,
      (reads_kind.required _ _).2 hkind, (reads_optional_text _ _).2 hname,
      (reads_flag.withDefault _ _ _).2 hnullable, (reads_optional_text _ _).2 hhandler]

theorem reads_arguments : Reads arguments? WritesArguments := by
  intro j as
  constructor
  · intro h
    unfold arguments? at h
    split at h
    · rename_i args hfields
      exact .written ((fields?_eq_some_iff (by decide) rfl).1 hfields)
        ((reads_argument.list.required _ _).1 h)
    · cases h
  · rintro ⟨fields, harguments⟩
    rename_i args
    have hfields : fields? ["args"] j = some [args] :=
      (fields?_eq_some_iff (by decide) rfl).2 fields
    simp only [arguments?, hfields, (reads_argument.list.required _ _).2 harguments]

theorem reads_optional_arguments :
    Reads (withDefault none (optional arguments?))
      (WritesDefaulted none (WritesOptional WritesArguments)) :=
  (reads_arguments.optional fun _ h => by
    cases h with
    | written fields => exact not_hasFields_null fields).withDefault none

/-- A document is read as a result map exactly when it writes one; its properties make a roster. -/
theorem resultMap?_eq_some_iff {m : ResultMap} :
    resultMap? j = some m ↔
      ∃ ps, WritesResultMap j m.id ps m.arguments ∧ m.properties = Roster.ofList ps := by
  constructor
  · intro h
    unfold resultMap? at h
    split at h
    · rename_i id ps args hfields
      split at h
      · rename_i hid hps hargs
        cases h
        obtain ⟨ps, hwritten, rfl⟩ := withDefault_properties?_eq_some_iff.1 hps
        exact ⟨ps, .written ((fields?_eq_some_iff (by decide) rfl).1 hfields)
          ((reads_text.withDefault _ _ _).1 hid) hwritten ((reads_optional_arguments _ _).1 hargs),
          rfl⟩
      · cases h
    · cases h
  · rintro ⟨ps, ⟨fields, hid, hps, hargs⟩, hroster⟩
    rename_i idDoc properties arguments
    have hfields : fields? ["id", "properties", "constructor"] j =
        some [idDoc, properties, arguments] :=
      (fields?_eq_some_iff (by decide) rfl).2 fields
    have hproperties := withDefault_properties?_eq_some_iff.2 ⟨ps, hps, rfl⟩
    simp only [resultMap?, hfields, (reads_text.withDefault _ _ _).2 hid, hproperties,
      (reads_optional_arguments _ _).2 hargs, ← hroster]

/-! ### Documents for every value -/

theorem expresses_enumeration : Expresses WritesEnumeration := by
  intro e
  obtain ⟨name, hname⟩ := expresses_text e.name
  obtain ⟨variants, hvariants⟩ := expresses_text.list e.variants
  exact ⟨.array [name, variants], .written (.array (n := 0) rfl) (.given hname) (.given hvariants)⟩

theorem expresses_kind : Expresses WritesKind := by
  intro k
  cases k with
  | enum e =>
    obtain ⟨j, hj⟩ := expresses_enumeration e
    exact ⟨_, .enum hj⟩
  | _ => exact ⟨_, .name rfl⟩

theorem exists_writesProperty (p : Property) : ∃ m, WritesProperty m p := by
  obtain ⟨name, hname⟩ := expresses_text p.field
  obtain ⟨handler, hhandler⟩ := expresses_text.optional p.handler
  exact ⟨(some p.column, .array [name, handler]),
    .member (.array (n := 0) rfl) (.given hname) (.given hhandler)⟩

theorem expresses_properties : Expresses WritesProperties := by
  intro ps
  obtain ⟨members, hmembers⟩ := exists_forall₂ exists_writesProperty ps
  exact ⟨.object members, .object hmembers⟩

theorem expresses_argument : Expresses WritesArgument := by
  intro a
  obtain ⟨column, hcolumn⟩ := expresses_text a.column
  obtain ⟨kind, hkind⟩ := expresses_kind a.kind
  obtain ⟨name, hname⟩ := expresses_text.optional a.name
  obtain ⟨nullable, hnullable⟩ := expresses_flag a.nullable
  obtain ⟨handler, hhandler⟩ := expresses_text.optional a.handler
  exact ⟨.array [column, kind, name, nullable, handler], .written (.array (n := 0) rfl)
    (.given hcolumn) (.given hkind) (.given hname) (.given hnullable) (.given hhandler)⟩

theorem expresses_arguments : Expresses WritesArguments := by
  intro as
  obtain ⟨args, hargs⟩ := expresses_argument.list as
  exact ⟨.array [args], .written (.array (n := 0) rfl) (.given hargs)⟩

theorem exists_writesResultMap (id : String) (ps : List Property) (as : Option (List Argument)) :
    ∃ j, WritesResultMap j id ps as := by
  obtain ⟨idDoc, hid⟩ := expresses_text id
  obtain ⟨properties, hps⟩ := expresses_properties ps
  obtain ⟨arguments, has⟩ := expresses_arguments.optional as
  exact ⟨.array [idDoc, properties, arguments],
    .written (.array (n := 0) rfl) (.given hid) (.given hps) (.given has)⟩

end Hydration.Config
