/-!
# Names, exact or ignoring case

Names are matched exactly first and ignoring ASCII case second.  `locate` is that
search: the first exact match wins over every match that only ignores case.

    locate label xs n = some i  ↔  i is the first exact match, or there is none
                                    and i is the first match ignoring case   (locate_eq_some_iff)
-/

namespace Hydration.Text

/-! ## Algorithm -/

/-- A name with its ASCII capitals made small; other characters are kept. -/
def fold (s : String) : List Char := s.toList.map Char.toLower

/-- Equality of names ignoring ASCII case. -/
def sameFolded (a b : String) : Bool := fold a == fold b

/-- Position of the entry labelled `name`: the first exact match, else the first
match ignoring case.  An entry without a label matches nothing. -/
def locate {α : Type} (label : α → Option String) (xs : List α) (name : String) : Option Nat :=
  match xs.findIdx? fun x => label x == some name with
  | some i => some i
  | none => xs.findIdx? fun x => (label x).any (sameFolded · name)

/-! ## Lemmas -/

theorem sameFolded_self (s : String) : sameFolded s s = true := by simp [sameFolded]

theorem locate_eq_some_iff {α : Type} (label : α → Option String) (xs : List α) (name : String)
    (i : Nat) :
    locate label xs name = some i ↔
      xs.findIdx? (fun x => label x == some name) = some i ∨
        xs.findIdx? (fun x => label x == some name) = none ∧
          xs.findIdx? (fun x => (label x).any (sameFolded · name)) = some i := by
  unfold locate
  cases xs.findIdx? fun x => label x == some name <;> simp

/-- A located position lies in the list. -/
theorem locate_lt {α : Type} {label : α → Option String} {xs : List α} {name : String} {i : Nat}
    (h : locate label xs name = some i) : i < xs.length := by
  rw [locate_eq_some_iff] at h
  rcases h with h | ⟨-, h⟩ <;> exact (List.findIdx?_eq_some_iff_getElem.1 h).1

end Hydration.Text
