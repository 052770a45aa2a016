import Hydration.Proofs.FirstOccurrence
import Hydration.Proofs.Text.Naming
import Hydration.Target.Tracked
import Mathlib.Data.List.DropRight

/-!
# What the log of changes lists

A tracked record is used by calls, in any order.  To the log a call is a mark: it turns tracking
on, it empties the log, it names a field, or it does nothing.  What the log lists can be read off
the marks: the fields that were named since the log was last emptied, each where it was named
first, if tracking had been turned on.  The record inside does not depend on tracking.

    (after calls (.of record)).changed = (logged (marks calls (.of record))).eraseDups
    (after calls (.of record)).inner = (after (calls without enable) (.of record)).inner
                                                                          (log_of_calls)
-/

namespace Hydration

open Text

variable {ρ : Type}

/-! ## Algorithm -/

namespace Tracked

/-- The description by which fields are set when `target` is given: the one that is kept, if one
was given before. -/
def description (target : Target ρ) (t : Tracked ρ) : Target ρ := t.described.getD target

/-- The field that a name finds. -/
def field? (target : Target ρ) (name : String) (t : Tracked ρ) : Option (Field ρ) :=
  ((t.description target).fieldIndex? name).bind (t.description target).field?

/-- Tracking and log as they are, with another record inside and a description that is kept. -/
def holding (target : Target ρ) (record : ρ) (t : Tracked ρ) : Tracked ρ :=
  { t with inner := record, described := some (t.description target) }

/-- The records inside are the same, and so are the descriptions that are kept. -/
structure Agrees (s t : Tracked ρ) : Prop where
  inner : s.inner = t.inner
  described : s.described = t.described

end Tracked

/-- A call on a tracked record.  One that sets a field comes with the description that records of
the type have at the time. -/
inductive TrackedCall (ρ : Type) where
  | enable
  | markClean
  | record (field : String)
  | update (field : String) (change : ρ → ρ)
  | set (target : Target ρ) (field : String) (v : Value)

/-- What a call is to the log of changes. -/
inductive Mark where
  /-- Tracking is turned on, which empties the log. -/
  | enabled
  | emptied
  | named (field : String)
  /-- Nothing is to be logged, because a field could not be set. -/
  | silent
  deriving DecidableEq

namespace Mark

/-- The log is empty afterwards. -/
def empties : Mark → Bool
  | enabled | emptied => true
  | named _ | silent => false

def field? : Mark → Option String
  | named field => some field
  | _ => none

end Mark

/-- The fields that were named since the log was last emptied, if tracking had been turned on.  It
is never turned off again. -/
def logged (ms : List Mark) : List String :=
  if .enabled ∈ ms then (ms.rtakeWhile fun m => !m.empties).filterMap Mark.field? else []

/-- The marks account for the state of tracking and for the log. -/
structure Accounts (ms : List Mark) (t : Tracked ρ) : Prop where
  tracking : t.tracking = true ↔ .enabled ∈ ms
  changed : t.changed = (logged ms).eraseDups

namespace TrackedCall

def enables : TrackedCall ρ → Bool
  | enable => true
  | _ => false

def perform : TrackedCall ρ → Tracked ρ → Tracked ρ
  | enable, t => t.enable
  | markClean, t => t.markClean
  | record field, t => t.record field
  | update field change, t => t.update field change
  | set target field v, t => (t.set target field v).2

/-- What the call is to the log: a field that is set is named as it is called itself. -/
def mark : TrackedCall ρ → Tracked ρ → Mark
  | enable, _ => .enabled
  | markClean, _ => .emptied
  | record field, _ => .named field
  | update field _, _ => .named field
  | set target field v, t =>
    match t.field? target field, (t.set target field v).1 with
    | some f, .ok () => .named f.name
    | _, _ => .silent

/-- The record after calls. -/
def after (calls : List (TrackedCall ρ)) (t : Tracked ρ) : Tracked ρ :=
  calls.foldl (fun t c => c.perform t) t

/-- What calls are to the log, each where it is made. -/
def marks : List (TrackedCall ρ) → Tracked ρ → List Mark
  | [], _ => []
  | c :: rest, t => c.mark t :: marks rest (c.perform t)

end TrackedCall

/-! ## Lemmas -/

/-! ### Setting a field -/

namespace Tracked

variable {target : Target ρ} {field : String} {v : Value} {s t : Tracked ρ} {f : Field ρ}

/-- A name that finds no field changes nothing; else the field is set, and only a field that could
be set is logged. -/
theorem set_cases (target : Target ρ) (field : String) (v : Value) (t : Tracked ρ) :
    (t.field? target field = none ∧ t.set target field v =
      (.error (.of (.unknownField (t.description target).name field)),
        t.holding target t.inner)) ∨
    ∃ f record, t.field? target field = some f ∧
      ((f.set v t.inner = (.ok (), record) ∧
          t.set target field v = (.ok (), (t.holding target record).record f.name)) ∨
        ∃ e, f.set v t.inner = (.error e, record) ∧
          t.set target field v = (.error e, t.holding target record)) := by
  cases hf : t.field? target field with
  | none =>
    refine .inl ⟨rfl, ?_⟩
    simp only [field?, description] at hf
    simp only [set, hf, holding, description]
  | some f =>
    refine .inr ⟨f, (f.set v t.inner).2, rfl, ?_⟩
    simp only [field?, description] at hf
    rcases hr : f.set v t.inner with ⟨e | ⟨⟩, record⟩
    · exact .inr ⟨e, rfl, by simp only [set, hf, hr, holding, description]⟩
    · exact .inl ⟨rfl, by simp only [set, hf, hr, holding, description]⟩

theorem described_record (field : String) (t : Tracked ρ) :
    (t.record field).described = t.described := by
  unfold record
  split <;> rfl

/-- What setting a field makes of the record inside. -/
theorem inner_set (target : Target ρ) (field : String) (v : Value) (t : Tracked ρ) :
    (t.set target field v).2.inner =
      ((t.field? target field).map fun f => (f.set v t.inner).2).getD t.inner := by
  rcases set_cases target field v t with ⟨hf, h⟩ | ⟨f, record, hf, ⟨hr, h⟩ | ⟨e, hr, h⟩⟩
  · rw [h, hf]
    rfl
  · rw [h, hf, Option.map_some, Option.getD_some, hr, inner_record]
    rfl
  · rw [h, hf, Option.map_some, Option.getD_some, hr]
    rfl

theorem described_set (target : Target ρ) (field : String) (v : Value) (t : Tracked ρ) :
    (t.set target field v).2.described = some (t.description target) := by
  rcases set_cases target field v t with ⟨-, h⟩ | ⟨f, record, -, ⟨-, h⟩ | ⟨e, -, h⟩⟩
  · rw [h]
    rfl
  · rw [h, described_record]
    rfl
  · rw [h]
    rfl

/-- The field that is set is one that the name finds, exactly or in another case. -/
theorem exists_finds_of_field? (h : t.field? target field = some f) : ∃ i exact,
    Finds (fun f : Field ρ => some f.name) (t.description target).fields.items field i exact ∧
      (t.description target).field? i = some f := by
  obtain ⟨i, hi, hf⟩ := Option.bind_eq_some_iff.1 h
  obtain ⟨exact, hfinds⟩ := locate_iff_finds.1 hi
  exact ⟨i, exact, hfinds, hf⟩

/-- A field that cannot be set leaves tracking and the log alone, and the record inside as well
unless its setter changes it. -/
theorem set_of_error {e : Error} (h : (t.set target field v).1 = .error e) :
    (t.set target field v).2.tracking = t.tracking ∧
    (t.set target field v).2.changed = t.changed ∧
    ((∀ f setter, t.field? target field = some f → f.setter = some setter →
      (setter v t.inner).2 = t.inner) → (t.set target field v).2.inner = t.inner) := by
  rcases set_cases target field v t with ⟨-, hset⟩ | ⟨f, record, hf, ⟨-, hset⟩ | ⟨e', hr, hset⟩⟩
  · rw [hset]
    exact ⟨rfl, rfl, fun _ => rfl⟩
  · rw [hset] at h
    cases h
  · rw [hset]
    refine ⟨rfl, rfl, fun hsetter => ?_⟩
    show record = t.inner
    have hrecord : (f.set v t.inner).2 = record := by rw [hr]
    rw [← hrecord, Field.set]
    cases hs : f.setter with
    | none => rfl
    | some setter => exact hsetter f setter hf hs

end Tracked

/-! ### Marks -/

namespace TrackedCall

variable {target : Target ρ} {field : String} {v : Value} {t : Tracked ρ}

theorem mark_set (target : Target ρ) (field : String) (v : Value) (t : Tracked ρ) :
    (set target field v).mark t =
      match t.field? target field, (t.set target field v).1 with
      | some f, .ok () => .named f.name
      | _, _ => .silent := rfl

theorem mark_set_of_ok {f : Field ρ} (hf : t.field? target field = some f)
    (h : (t.set target field v).1 = .ok ()) : (set target field v).mark t = .named f.name := by
  rw [mark_set, hf, h]

theorem mark_set_of_error {e : Error} (h : (t.set target field v).1 = .error e) :
    (set target field v).mark t = .silent := by
  rw [mark_set, h]
  cases t.field? target field <;> rfl

theorem mark_ne_enabled {c : TrackedCall ρ} (h : c.enables = false) : c.mark t ≠ .enabled := by
  cases c with
  | enable => cases h
  | set target field v =>
    rw [mark_set]
    split <;> exact Mark.noConfusion
  | _ => exact Mark.noConfusion

/-- Tracking that no call turned on left no mark. -/
theorem enabled_notMem_marks {calls : List (TrackedCall ρ)}
    (h : ∀ c ∈ calls, c.enables = false) : .enabled ∉ marks calls t := by
  induction calls generalizing t with
  | nil => exact List.not_mem_nil
  | cons c rest ih =>
    rw [marks, List.mem_cons, not_or]
    exact ⟨(mark_ne_enabled (h c List.mem_cons_self)).symm,
      ih fun d hd => h d (List.mem_cons_of_mem c hd)⟩

end TrackedCall

section
variable {ms : List Mark} {t : Tracked ρ}

theorem logged_of_empties {m : Mark} (h : m.empties = true) : logged (ms ++ [m]) = [] := by
  unfold logged
  rw [List.rtakeWhile_concat_neg _ _ _ (by simp [h])]
  simp

theorem enabled_mem_snoc_iff {m : Mark} (h : m.empties = false) :
    .enabled ∈ ms ++ [m] ↔ .enabled ∈ ms := by
  rw [List.mem_append, List.mem_singleton]
  refine or_iff_left ?_
  rintro rfl
  cases h

/-- A mark that does not empty the log adds the field that it names. -/
theorem logged_snoc {m : Mark} (h : m.empties = false) :
    logged (ms ++ [m]) = if .enabled ∈ ms then logged ms ++ m.field?.toList else [] := by
  unfold logged
  rw [List.rtakeWhile_concat_pos _ _ _ (by simp [h]), List.filterMap_append]
  simp only [enabled_mem_snoc_iff h]
  by_cases hon : .enabled ∈ ms
  · simp only [if_pos hon]
    cases m <;> rfl
  · simp only [if_neg hon]

theorem accounts_of (record : ρ) : Accounts [] (.of record) :=
  ⟨by simp [Tracked.of], rfl⟩

namespace Accounts

/-- Whatever was logged before is forgotten. -/
theorem enable (ms : List Mark) (t : Tracked ρ) : Accounts (ms ++ [.enabled]) t.enable where
  tracking := by simp [Tracked.enable]
  changed := by
    rw [logged_of_empties rfl]
    rfl

theorem markClean (h : Accounts ms t) : Accounts (ms ++ [.emptied]) t.markClean where
  tracking := by
    rw [List.mem_append, List.mem_singleton, or_iff_left nofun]
    exact h.tracking
  changed := by
    rw [logged_of_empties rfl]
    rfl

/-- Nothing is logged, and neither tracking nor the log changes. -/
theorem silent (h : Accounts ms t) : Accounts (ms ++ [.silent]) t where
  tracking := (h.tracking).trans (enabled_mem_snoc_iff rfl).symm
  changed := by
    rw [logged_snoc rfl, h.changed]
    by_cases hon : .enabled ∈ ms
    · rw [if_pos hon]
      simp [Mark.field?]
    · rw [if_neg hon, logged, if_neg hon]

/-- A field is named: it joins the log at its end unless it is there or tracking is off. -/
theorem record (h : Accounts ms t) (field : String) :
    Accounts (ms ++ [.named field]) (t.record field) where
  tracking := by
    rw [Tracked.tracking_record]
    exact (h.tracking).trans (enabled_mem_snoc_iff rfl).symm
  changed := by
    rw [logged_snoc rfl]
    by_cases hon : .enabled ∈ ms
    · rw [if_pos hon, Tracked.record, if_pos (h.tracking.2 hon)]
      show (if field ∈ t.changed then t.changed else t.changed ++ [field]) =
        (logged ms ++ [field]).eraseDups
      rw [eraseDups_snoc, h.changed]
      simp only [List.mem_eraseDups]
    · have hoff : ¬t.tracking = true := fun ht => hon (h.tracking.1 ht)
      rw [if_neg hon, Tracked.record, if_neg hoff, h.changed, logged, if_neg hon]

/-- Each call leaves a mark that accounts for what it does to the log. -/
theorem perform (h : Accounts ms t) (c : TrackedCall ρ) :
    Accounts (ms ++ [c.mark t]) (c.perform t) := by
  have hheld : ∀ target record, Accounts ms (t.holding target record) :=
    fun _ _ => ⟨h.tracking, h.changed⟩
  cases c with
  | enable => exact enable ms t
  | markClean => exact h.markClean
  | record field => exact h.record field
  | update field change =>
    have hchanged : Accounts ms { t with inner := change t.inner } := ⟨h.tracking, h.changed⟩
    exact hchanged.record field
  | set target field v =>
    have hperform : (TrackedCall.set target field v).perform t = (t.set target field v).2 := rfl
    rcases Tracked.set_cases target field v t with
      ⟨-, hset⟩ | ⟨f, record, hf, ⟨-, hset⟩ | ⟨e, -, hset⟩⟩
    · rw [TrackedCall.mark_set_of_error (congrArg Prod.fst hset), hperform, hset]
      exact (hheld target t.inner).silent
    · rw [TrackedCall.mark_set_of_ok hf (congrArg Prod.fst hset), hperform, hset]
      exact (hheld target record).record f.name
    · rw [TrackedCall.mark_set_of_error (congrArg Prod.fst hset), hperform, hset]
      exact (hheld target record).silent

theorem after (h : Accounts ms t) (calls : List (TrackedCall ρ)) :
    Accounts (ms ++ TrackedCall.marks calls t) (TrackedCall.after calls t) := by
  induction calls generalizing ms t with
  | nil =>
    rw [TrackedCall.marks, List.append_nil]
    exact h
  | cons c rest ih =>
    rw [TrackedCall.marks, List.append_cons]
    exact ih (h.perform c)

end Accounts

end

/-! ### The record inside -/

namespace Tracked.Agrees

variable {s t : Tracked ρ}

theorem record (h : s.Agrees t) (field : String) : (s.record field).Agrees (t.record field) where
  inner := by rw [inner_record, inner_record, h.inner]
  described := by rw [described_record, described_record, h.described]

/-- A call does the same to records that agree, whether or not they are tracked. -/
theorem perform (h : s.Agrees t) (c : TrackedCall ρ) : (c.perform s).Agrees (c.perform t) := by
  cases c with
  | enable => exact ⟨h.inner, h.described⟩
  | markClean => exact ⟨h.inner, h.described⟩
  | record field => exact h.record field
  | update field change =>
    have hchanged : Agrees { s with inner := change s.inner } { t with inner := change t.inner } :=
      ⟨congrArg change h.inner, h.described⟩
    exact hchanged.record field
  | set target field v =>
    have hdescription : s.description target = t.description target := by
      rw [description, h.described, description]
    have hfield : s.field? target field = t.field? target field := by
      rw [field?, hdescription, field?]
    refine ⟨?_, ?_⟩
    · show (s.set target field v).2.inner = (t.set target field v).2.inner
      rw [inner_set, inner_set, hfield, h.inner]
    · show (s.set target field v).2.described = (t.set target field v).2.described
      rw [described_set, described_set, hdescription]

/-- Turning tracking on may be left out. -/
theorem after_filter (h : s.Agrees t) (calls : List (TrackedCall ρ)) :
    (TrackedCall.after calls s).Agrees
      (TrackedCall.after (calls.filter fun c => !c.enables) t) := by
  induction calls generalizing s t with
  | nil => exact h
  | cons c rest ih =>
    cases c with
    | enable =>
      have hon : s.enable.Agrees t := ⟨h.inner, h.described⟩
      exact ih hon
    | _ => exact ih (h.perform _)

end Tracked.Agrees

/-! ## Top theorems -/

/-- After any calls on a new tracked record the log lists the fields that were named while tracking
was on and since the log was last emptied, each once and where it was first named; it is empty when
tracking was never turned on.  The record inside is what it would be had tracking never been turned
on.  A field that is set is named as it is called itself, however it was addressed.  One that cannot
be set is not named: tracking and the log stay as they are, and so does the record inside unless a
setter that fails changes it. -/
theorem log_of_calls (record : ρ) (calls : List (TrackedCall ρ)) :
    let t := TrackedCall.after calls (.of record)
    t.changed = (logged (TrackedCall.marks calls (.of record))).eraseDups ∧
    ((∀ c ∈ calls, c.enables = false) → t.changed = []) ∧
    t.inner = (TrackedCall.after (calls.filter fun c => !c.enables) (.of record)).inner ∧
    ∀ (target : Target ρ) (field : String) (v : Value),
      ((t.set target field v).1 = .ok () → ∃ i exact f,
        Finds (fun f : Field ρ => some f.name) (t.description target).fields.items field i exact ∧
          (t.description target).field? i = some f ∧
          (TrackedCall.set target field v).mark t = .named f.name) ∧
      ∀ e, (t.set target field v).1 = .error e →
        (TrackedCall.set target field v).mark t = .silent ∧
        (t.set target field v).2.tracking = t.tracking ∧
        (t.set target field v).2.changed = t.changed ∧
        ((∀ f setter, t.field? target field = some f → f.setter = some setter →
          (setter v t.inner).2 = t.inner) → (t.set target field v).2.inner = t.inner) := by
  intro t
  have haccounts := (accounts_of record).after calls
  rw [List.nil_append] at haccounts
  refine ⟨haccounts.changed, fun hnever => ?_, ?_, fun target field v => ⟨fun hok => ?_,
    fun e herror => ?_⟩⟩
  · rw [haccounts.changed, logged, if_neg (TrackedCall.enabled_notMem_marks hnever)]
    rfl
  · exact (Tracked.Agrees.after_filter ⟨rfl, rfl⟩ calls).inner
  · rcases Tracked.set_cases target field v t with
      ⟨-, hset⟩ | ⟨f, record', hf, ⟨-, hset⟩ | ⟨e, -, hset⟩⟩
    · rw [hset] at hok
      cases hok
    · obtain ⟨i, exact, hfinds, hi⟩ := Tracked.exists_finds_of_field? hf
      exact ⟨i, exact, f, hfinds, hi, TrackedCall.mark_set_of_ok hf hok⟩
    · rw [hset] at hok
      cases hok
  · exact ⟨TrackedCall.mark_set_of_error herror, Tracked.set_of_error herror⟩

/-- Notes have a title, whether they are pinned, and an author that cannot be set. -/
def noteTarget : Target (Value × Value) where
  name := "Note"
  fields := .ofList [{ name := "title", kind := .text, setter := some fun v r => (.ok (), v, r.2) },
    { name := "pinned", kind := .bool, setter := some fun v r => (.ok (), r.1, v) },
    { name := "author", kind := .text }]
  blank := some (.null, .null)

def noteCalls : List (TrackedCall (Value × Value)) :=
  [.set noteTarget "title" (.text "a"), .enable, .set noteTarget "PINNED" (.bool true),
    .set noteTarget "author" (.text "b"), .update "title" (fun r => (.text "c", r.2)),
    .set noteTarget "pinned" (.bool false)]

/-- The title that is set before tracking is turned on is not logged, nor is the author, who cannot
be set. -/
theorem log_of_noteCalls :
    (TrackedCall.after noteCalls (.of (.null, .null))).changed = ["pinned", "title"] ∧
    (TrackedCall.after (noteCalls.take 1) (.of (.null, .null))).changed = [] ∧
    (TrackedCall.after noteCalls (.of (.null, .null))).inner = (.text "c", .bool false) ∧
    ((TrackedCall.after noteCalls (.of (.null, .null))).set noteTarget "author" .null).2.changed =
      ["pinned", "title"] := by
  obtain ⟨hchanged, -, hinner, hset⟩ := log_of_calls (.null, .null) noteCalls
  obtain ⟨-, hnever, -⟩ := log_of_calls (.null, .null) (noteCalls.take 1)
  have hlog := hchanged.trans (rfl : _ = ["pinned", "title"])
  obtain ⟨-, -, hauthor, -⟩ := (hset noteTarget "author" .null).2 _ rfl
  exact ⟨hlog, hnever (by decide), hinner.trans rfl, hauthor.trans hlog⟩

end Hydration
