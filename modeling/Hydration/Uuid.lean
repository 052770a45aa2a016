import Hydration.Text.Hex

/-!
# UUIDs

Sixteen octets, written as 32 hexadecimal digits in five groups.  Four written forms
are read: the groups joined by hyphens, bare digits, the hyphenated form between
braces, and the hyphenated form behind `urn:uuid:`.  That word and the digits are read
in either case, small digits are written, and nothing may stand around the text.

Octets, reader and writer stand in for those of the `uuid` library, and follow its
documentation.  Nothing else is relied on than that both ways back exist:

    ofOctets? u.octets = some u      (ofOctets?_octets)
    read? u.text = some u            (read?_text)
-/

namespace Hydration

/-- Sixteen octets. -/
structure Uuid where
  octets : List UInt8
  length_eq : octets.length = 16
  deriving DecidableEq

namespace Uuid

/-! ## Algorithm -/

/-- The UUID with these octets, if they are sixteen. -/
def ofOctets? (bs : List UInt8) : Option Uuid :=
  if h : bs.length = 16 then some ⟨bs, h⟩ else none

/-- The UUID whose octets are all zero. -/
def zero : Uuid := ⟨List.replicate 16 0, by simp⟩

/-- 32 digits in groups of 8, 4, 4, 4 and 12, with hyphens between them. -/
def group (ds : List Char) : List Char :=
  ds.take 8 ++ '-' :: (ds.drop 8).take 4 ++ '-' :: (ds.drop 12).take 4 ++
    '-' :: (ds.drop 16).take 4 ++ '-' :: ds.drop 20

/-- What stands between the hyphens of a text of 36 characters. -/
def ungrouped (cs : List Char) : List Char :=
  cs.take 8 ++ (cs.drop 9).take 4 ++ (cs.drop 14).take 4 ++ (cs.drop 19).take 4 ++ cs.drop 24

/-- The digits of five groups, if hyphens stand between the groups. -/
def ungroup? (cs : List Char) : Option (List Char) :=
  if cs.length = 36 ∧ cs = group (ungrouped cs) then some (ungrouped cs) else none

/-- The digits inside one of the four written forms. -/
def digits? (cs : List Char) : Option (List Char) :=
  let urn := "urn:uuid:".toList
  if cs.length = 32 then some cs
  else if cs.length = 38 then
    match cs with
    | c :: rest =>
      if c = Char.ofNat 0x7B ∧ rest.getLast? = some (Char.ofNat 0x7D) then ungroup? rest.dropLast
      else none
    | [] => none
  else if cs.length = 45 ∧ (cs.take 9).map Char.toLower = urn then ungroup? (cs.drop 9)
  else ungroup? cs

/-- The UUID that a text writes. -/
def read? (s : String) : Option Uuid :=
  ((digits? s.toList).bind Text.Hex.octets?).bind ofOctets?

/-- The hyphenated form. -/
def text (u : Uuid) : String := String.ofList (group (Text.Hex.digits u.octets))

/-! ## Lemmas -/

theorem ofOctets?_octets (u : Uuid) : ofOctets? u.octets = some u := dif_pos u.length_eq

variable {a b c d e ds : List Char}

/-- 32 digits are groups of 8, 4, 4, 4 and 12. -/
theorem exists_groups (h : ds.length = 32) :
    ∃ a b c d e, a.length = 8 ∧ b.length = 4 ∧ c.length = 4 ∧ d.length = 4 ∧ e.length = 12 ∧
      ds = a ++ (b ++ (c ++ (d ++ e))) := by
  have h12 : ds.drop 12 = (ds.drop 8).drop 4 := by rw [List.drop_drop]
  have h16 : ds.drop 16 = (ds.drop 12).drop 4 := by rw [List.drop_drop]
  have h20 : ds.drop 20 = (ds.drop 16).drop 4 := by rw [List.drop_drop]
  refine ⟨ds.take 8, (ds.drop 8).take 4, (ds.drop 12).take 4, (ds.drop 16).take 4, ds.drop 20,
    by simp [h], by simp [h], by simp [h], by simp [h], by simp [h], ?_⟩
  rw [h20, List.take_append_drop, h16, List.take_append_drop, h12, List.take_append_drop,
    List.take_append_drop]

/-- Groups are written with hyphens between them. -/
theorem group_append (ha : a.length = 8) (hb : b.length = 4) (hc : c.length = 4)
    (hd : d.length = 4) :
    group (a ++ (b ++ (c ++ (d ++ e)))) =
      a ++ '-' :: (b ++ '-' :: (c ++ '-' :: (d ++ '-' :: e))) := by
  simp [group, List.drop_append, List.drop_of_length_le, ha, hb, hc, hd]

/-- What stands between the hyphens of the written form is what was grouped. -/
theorem ungrouped_group (h : ds.length = 32) : ungrouped (group ds) = ds := by
  obtain ⟨a, b, c, d, e, ha, hb, hc, hd, he, rfl⟩ := exists_groups h
  rw [group_append ha hb hc hd]
  simp [ungrouped, List.drop_append, List.drop_of_length_le, ha, hb, hc, hd]

theorem length_group (h : ds.length = 32) : (group ds).length = 36 := by
  simp [group, h]

theorem ungroup?_group (h : ds.length = 32) : ungroup? (group ds) = some ds := by
  rw [ungroup?, ungrouped_group h, if_pos ⟨length_group h, rfl⟩]

/-- Only the plain hyphenated form has 36 characters. -/
theorem digits?_group (h : ds.length = 32) : digits? (group ds) = some ds := by
  have hlength := length_group h
  unfold digits?
  simp only [hlength, ungroup?_group h]
  rfl

/-- A UUID is read again from its hyphenated form. -/
theorem read?_text (u : Uuid) : read? u.text = some u := by
  have hlength : (Text.Hex.digits u.octets).length = 32 := by
    rw [Text.Hex.length_digits, u.length_eq]
  rw [read?, text, String.toList_ofList, digits?_group hlength, Option.bind_some,
    Text.Hex.octets?_digits, Option.bind_some, ofOctets?_octets]

end Uuid

end Hydration
