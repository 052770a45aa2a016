import Hydration.Request
import Mathlib.Data.List.TakeWhile

/-!
# What cache keys tell apart

The id of a key is one text, made of the position of the result set and of the statement.  The
position is written in digits, and no digit is an underscore, so the first underscore ends it:
whatever the statement looks like, both parts can be told from the text.

    (digits of n ++ '_' :: rest).takeWhile (· != '_') = digits of n       (takeWhile_digits)
    idText i x = idText j y  ↔  i = j ∧ x = y                             (idText_eq_iff)
    keys are equal when position, statement and both options are          (ofRequest_eq_iff)
-/

namespace Hydration.CacheKey

/-! ## Lemmas -/

/-- Digits end at the first underscore, whatever follows it. -/
theorem takeWhile_digits (n : Nat) (rest : List Char) :
    (Nat.toDigits 10 n ++ '_' :: rest).takeWhile (· != '_') = Nat.toDigits 10 n := by
  have hdigits : ∀ c ∈ Nat.toDigits 10 n, (c != '_') = true := by
    intro c hc
    rw [bne_iff_ne]
    rintro rfl
    exact Nat.underscore_not_in_toDigits hc
  rw [List.takeWhile_append_of_pos hdigits, List.takeWhile_cons_of_neg (by decide),
    List.append_nil]

theorem toDigits_injective {m n : Nat} (h : Nat.toDigits 10 m = Nat.toDigits 10 n) : m = n := by
  have hread := congrArg (fun digits => Nat.ofDigitChars 10 digits 0) h
  simpa only [Nat.ofDigitChars_ten_toDigits] using hread

theorem toList_idText (index : Nat) (identity : String) :
    (idText index identity).toList =
      "Index:".toList ++ (Nat.toDigits 10 index ++ '_' :: identity.toList) := by
  have hsep : "_".toList = ['_'] := rfl
  simp only [idText, String.toList_append, Nat.toString_eq_repr, Nat.toList_repr, hsep,
    List.append_assoc, List.cons_append, List.nil_append]

/-- The text tells the position and the statement. -/
theorem idText_eq_iff {i j : Nat} {x y : String} : idText i x = idText j y ↔ i = j ∧ x = y := by
  constructor
  · intro h
    have hlist := congrArg String.toList h
    rw [toList_idText, toList_idText] at hlist
    have htail := List.append_cancel_left hlist
    have hij : i = j := by
      have hdigits := congrArg (List.takeWhile (· != '_')) htail
      rw [takeWhile_digits, takeWhile_digits] at hdigits
      exact toDigits_injective hdigits
    subst hij
    have hrest := List.append_cancel_left htail
    exact ⟨rfl, String.toList_inj.1 (List.cons.inj hrest).2⟩
  · rintro ⟨rfl, rfl⟩
    rfl

/-! ## Top theorems -/

/-- Two requests have the same key exactly when their result sets are at the same position, their
statements have the same identity and both options agree.  The id alone tells the position and the
identity, whatever the identity looks like. -/
theorem ofRequest_eq_iff (i j : Nat) (a b : Request) (s t : Settings) :
    (ofRequest i a s = ofRequest j b t ↔ i = j ∧ a.statement.identity = b.statement.identity ∧
      s.ignoreNull = t.ignoreNull ∧ a.changeTracking = b.changeTracking) ∧
    ∀ (k l : Nat) (x y : String), idText k x = idText l y ↔ k = l ∧ x = y := by
  refine ⟨?_, fun k l x y => idText_eq_iff⟩
  unfold ofRequest
  rw [CacheKey.mk.injEq, idText_eq_iff, and_assoc]

end Hydration.CacheKey
