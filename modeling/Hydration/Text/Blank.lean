/-!
# White space

The Unicode property White_Space, and trimming by it.  `trim` takes the longest
run of blanks off both ends and nothing else: what is left starts and ends with
no blank, and a text without blanks at its ends stays as it is.

    trim cs = drop blanks at the front, then at the back
    (trim cs).head? = some c → isBlank c = false      (trim_head)
    no blank in cs → trim cs = cs                     (trim_eq_self_of_forall)
-/

namespace Hydration.Text

/-! ## Algorithm -/

/-- The 25 characters of the property White_Space. -/
def isBlank (c : Char) : Bool :=
  let n := c.toNat
  (9 ≤ n && n ≤ 13) || n == 0x20 || n == 0x85 || n == 0xA0 || n == 0x1680 ||
    (0x2000 ≤ n && n ≤ 0x200A) || n == 0x2028 || n == 0x2029 || n == 0x202F ||
    n == 0x205F || n == 0x3000

/-- A text without the blanks at its end: a character goes when it is a blank and
nothing of the text behind it stays. -/
def trimEnd : List Char → List Char
  | [] => []
  | c :: cs =>
    let rest := trimEnd cs
    if isBlank c ∧ rest = [] then [] else c :: rest

/-- A text without the blanks at its two ends. -/
def trim (cs : List Char) : List Char := trimEnd (cs.dropWhile isBlank)

/-! ## Lemmas -/

theorem trimEnd_head {cs : List Char} {c : Char} (h : (trimEnd cs).head? = some c) :
    cs.head? = some c := by
  cases cs with
  | nil => simp [trimEnd] at h
  | cons d ds => grind [trimEnd]

theorem trim_head {cs : List Char} {c : Char} (h : (trim cs).head? = some c) :
    isBlank c = false := by
  have h1 := trimEnd_head h
  have h2 := List.head?_dropWhile_not isBlank cs
  rw [h1] at h2
  simpa using h2

theorem trimEnd_eq_self_of_forall {cs : List Char} (h : ∀ c ∈ cs, isBlank c = false) :
    trimEnd cs = cs := by
  induction cs with
  | nil => rfl
  | cons c cs ih => simp_all [trimEnd]

/-- A text that holds no blank is its own trimmed form. -/
theorem trim_eq_self_of_forall {cs : List Char} (h : ∀ c ∈ cs, isBlank c = false) :
    trim cs = cs := by
  have hd : cs.dropWhile isBlank = cs := by
    cases cs with
    | nil => rfl
    | cons c cs => simp [h c List.mem_cons_self]
  rw [trim, hd, trimEnd_eq_self_of_forall h]

end Hydration.Text
