import Hydration.Proofs.Integer

/-!
# Casts that lose nothing

Some casts can be taken back: what a value was cast to is cast to the value again by its own kind.
So it is for numerals and truth values as texts, texts and UUIDs as octets, UUIDs as texts, and
integers in any width that holds them.

    SizedInt.read? n.width (trim n.text) = some n                       (toInt_text)
    ∃ s, Utf8.decode? bs = some s  ↔  bs encodes characters             (exists_decode?_iff)
    RoundTrips k via v  ↔  k.cast takes back what via.cast makes of v   (casts_round_trip)

Octets become a text when they are UTF-8, and then the text becomes those octets again.
-/

namespace Hydration

open Traversal

/-! ## Algorithm -/

/-- The octets are the encodings of characters, one after the other. -/
def Text.Utf8.Encodes (bs : List UInt8) : Prop :=
  ∃ cs : List Char, cs.flatMap String.utf8EncodeChar = bs

/-- What the value is cast to is cast to the value again. -/
def Kind.RoundTrips (k via : Kind) (v : Value) : Prop :=
  ∃ w, via.cast v = .ok w ∧ k.cast w = .ok v

/-! ## Lemmas -/

/-! ### Octets of texts -/

namespace Text.Utf8

variable {bs : List UInt8}

theorem encode_ofList (cs : List Char) :
    encode (String.ofList cs) = cs.flatMap String.utf8EncodeChar := by
  rw [encode, String.toByteArray_ofList, List.utf8Encode, List.toList_data_toByteArray]

/-- Octets have a reading when they are the encodings of characters. -/
theorem exists_decode?_iff : (∃ s, decode? bs = some s) ↔ Encodes bs := by
  simp only [decode?_eq_some_iff]
  constructor
  · rintro ⟨s, rfl⟩
    refine ⟨s.toList, ?_⟩
    rw [← encode_ofList, String.ofList_toList]
  · rintro ⟨cs, rfl⟩
    exact ⟨String.ofList cs, encode_ofList cs⟩

end Text.Utf8

/-! ### Numerals -/

namespace Decimal

variable {c : Char} {ds : List Char}

theorem isBlank_of_isDigit (h : c.isDigit = true) : Text.isBlank c = false := by
  obtain ⟨hlo, hhi⟩ := Char.isDigit_iff_toNat.1 h
  have hzero : '0'.toNat = 48 := rfl
  have hnine : '9'.toNat = 57 := rfl
  simp only [Text.isBlank, Bool.or_eq_false_iff, Bool.and_eq_false_iff, decide_eq_false_iff_not,
    beq_eq_false_iff_ne]
  omega

theorem isBlank_of_mem_intDigits {z : Int} (h : c ∈ intDigits z) : Text.isBlank c = false := by
  have hdigits : ∀ n, ∀ d ∈ digits n, Text.isBlank d = false := fun n d hd =>
    isBlank_of_isDigit ((read?_eq_some_iff.1 (read?_digits n)).1.isDigit d hd)
  cases z with
  | ofNat n => exact hdigits n c h
  | negSucc n =>
    rcases List.mem_cons.1 h with rfl | h
    · rfl
    · exact hdigits (n + 1) c h

end Decimal

/-- Only signed widths hold negative integers. -/
theorem IntWidth.isSigned_of_holds {w : IntWidth} {z : Int} (h : w.Holds z) (hz : z < 0) :
    w.isSigned = true := by
  by_contra hsigned
  have hleast : w.least = 0 := if_neg hsigned
  have hle := h.1
  omega

/-- A stored integer is read again from its numeral. -/
theorem Value.toInt_text (n : SizedInt) : (Value.text n.text).toInt n.width = .ok n := by
  have htrim : Text.trim n.text.toList = Decimal.intDigits n.value := by
    rw [SizedInt.text, String.toList_ofList]
    exact Text.trim_eq_self_of_forall fun c => Decimal.isBlank_of_mem_intDigits
  have hread : Decimal.readInt? n.width.isSigned (Decimal.intDigits n.value) = some n.value :=
    Decimal.readInt?_intDigits (IntWidth.isSigned_of_holds n.holds)
  unfold toInt
  rw [orElse_eq_ok_iff]
  show SizedInt.read? n.width (Text.trim n.text.toList) = some n
  rw [htrim, SizedInt.read?, hread, Option.bind_some, SizedInt.ofInt?_value]

/-! ### Casts there and back -/

theorem Value.map_orElse_eq_ok_iff {α : Type} {v w : Value} {wanted : String} {o : Option α}
    {f : α → Value} : (v.orElse wanted o).map f = .ok w ↔ ∃ a, o = some a ∧ f a = w := by
  simp only [map_eq_ok_iff, orElse_eq_ok_iff]

namespace Kind

theorem roundTrips_int_text (n : SizedInt) : RoundTrips (.int n.width) .text (.int n) :=
  ⟨.text n.text, rfl, map_eq_ok_iff.2 ⟨n, Value.toInt_text n, rfl⟩⟩

theorem roundTrips_bool_text (b : Bool) : RoundTrips .bool .text (.bool b) := by
  cases b with
  | false => exact ⟨.text "false", rfl, by decide⟩
  | true => exact ⟨.text "true", rfl, by decide⟩

theorem roundTrips_text_bytes (s : String) : RoundTrips .text .bytes (.text s) :=
  ⟨.bytes (Text.Utf8.encode s), rfl,
    Value.map_orElse_eq_ok_iff.2 ⟨s, Text.Utf8.decode?_encode s, rfl⟩⟩

theorem roundTrips_uuid_bytes (u : Uuid) : RoundTrips .uuid .bytes (.uuid u) :=
  ⟨.bytes u.octets, rfl, Value.map_orElse_eq_ok_iff.2 ⟨u, u.ofOctets?_octets, rfl⟩⟩

theorem roundTrips_uuid_text (u : Uuid) : RoundTrips .uuid .text (.uuid u) :=
  ⟨.text u.text, rfl, Value.map_orElse_eq_ok_iff.2 ⟨u, u.read?_text, rfl⟩⟩

/-- A width that holds the integer gives it back. -/
theorem roundTrips_int_int (n : SizedInt) {w : IntWidth} (h : w.Holds n.value) :
    RoundTrips (.int n.width) (.int w) (.int n) := by
  let m : SizedInt := ⟨w, n.value, h⟩
  have hthere : (Value.int n).toInt w = .ok m := Value.toInt_int_eq_ok_iff.2 ⟨h, rfl, rfl⟩
  have hback : (Value.int m).toInt n.width = .ok n :=
    Value.toInt_int_eq_ok_iff.2 ⟨n.holds, rfl, rfl⟩
  exact ⟨.int m, map_eq_ok_iff.2 ⟨m, hthere, rfl⟩, map_eq_ok_iff.2 ⟨n, hback, rfl⟩⟩

/-- Octets are cast to the text that they encode. -/
theorem cast_text_bytes_eq_ok_iff {bs : List UInt8} {w : Value} :
    Kind.text.cast (.bytes bs) = .ok w ↔ ∃ s, Text.Utf8.decode? bs = some s ∧ .text s = w :=
  Value.map_orElse_eq_ok_iff

theorem exists_cast_text_bytes_iff {bs : List UInt8} :
    (∃ w, Kind.text.cast (.bytes bs) = .ok w) ↔ Text.Utf8.Encodes bs := by
  rw [← Text.Utf8.exists_decode?_iff]
  constructor
  · rintro ⟨w, hw⟩
    obtain ⟨s, hs, -⟩ := cast_text_bytes_eq_ok_iff.1 hw
    exact ⟨s, hs⟩
  · rintro ⟨s, hs⟩
    exact ⟨.text s, cast_text_bytes_eq_ok_iff.2 ⟨s, hs, rfl⟩⟩

/-- A text that octets were cast to is cast to the same octets. -/
theorem cast_bytes_of_cast_text {bs : List UInt8} {w : Value}
    (h : Kind.text.cast (.bytes bs) = .ok w) : Kind.bytes.cast w = .ok (.bytes bs) := by
  obtain ⟨s, hs, rfl⟩ := cast_text_bytes_eq_ok_iff.1 h
  have hencode : Text.Utf8.encode s = bs := Text.Utf8.decode?_eq_some_iff.1 hs
  rw [← hencode]
  rfl

/-! ## Top theorems -/

/-- Integers and truth values can be cast to texts and back, texts to octets and back, UUIDs to
octets or texts and back, and integers to any width that holds them and back.  Octets can be cast
to a text when they encode characters, and then back. -/
theorem casts_round_trip :
    (∀ n : SizedInt, RoundTrips (.int n.width) .text (.int n)) ∧
    (∀ b, RoundTrips .bool .text (.bool b)) ∧
    (∀ s, RoundTrips .text .bytes (.text s)) ∧
    (∀ u, RoundTrips .uuid .bytes (.uuid u)) ∧
    (∀ u, RoundTrips .uuid .text (.uuid u)) ∧
    (∀ (n : SizedInt) (w : IntWidth), w.Holds n.value →
      RoundTrips (.int n.width) (.int w) (.int n)) ∧
    ∀ bs : List UInt8,
      ((∃ w, Kind.text.cast (.bytes bs) = .ok w) ↔ Text.Utf8.Encodes bs) ∧
      ∀ w, Kind.text.cast (.bytes bs) = .ok w → Kind.bytes.cast w = .ok (.bytes bs) :=
  ⟨roundTrips_int_text, roundTrips_bool_text, roundTrips_text_bytes, roundTrips_uuid_bytes,
    roundTrips_uuid_text, fun n _ => roundTrips_int_int n,
    fun _ => ⟨exists_cast_text_bytes_iff, fun _ => cast_bytes_of_cast_text⟩⟩

/-- The least integer of eight bits, kept in 64, goes through eight bits; and the octets of a
letter beyond ASCII go through a text. -/
theorem casts_round_trip_least :
    let n : SizedInt := ⟨.i64, -128, by decide⟩
    IntWidth.i8.Holds n.value ∧ RoundTrips (.int .i64) (.int .i8) (.int n) ∧
      Kind.text.cast (.bytes [0xC3, 0xA9]) = .ok (.text "é") ∧
      Kind.bytes.cast (.text "é") = .ok (.bytes [0xC3, 0xA9]) := by
  intro n
  have hholds : IntWidth.i8.Holds n.value := by decide
  have hcast : Kind.text.cast (.bytes [0xC3, 0xA9]) = .ok (.text "é") := by decide
  obtain ⟨-, -, -, -, -, hint, hbytes⟩ := casts_round_trip
  exact ⟨hholds, hint n .i8 hholds, hcast, (hbytes _).2 _ hcast⟩

end Kind

end Hydration
