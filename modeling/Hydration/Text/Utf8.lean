/-!
# UTF-8

Texts as octets.  A text has one encoding, and an octet sequence is the encoding of
at most one text.

    decode? bs = some s  ↔  encode s = bs      (decode?_eq_some_iff)
-/

namespace Hydration.Text.Utf8

/-- The octets of a text. -/
def encode (s : String) : List UInt8 := s.toByteArray.data.toList

/-- The text encoded by these octets, if there is one. -/
def decode? (bs : List UInt8) : Option String := String.fromUTF8? ⟨bs.toArray⟩

theorem decode?_eq_some_iff {bs : List UInt8} {s : String} :
    decode? bs = some s ↔ encode s = bs := by
  unfold decode? encode String.fromUTF8?
  constructor
  · intro h
    split at h
    · cases Option.some.inj h
      rfl
    · cases h
  · rintro rfl
    have he : (⟨s.toByteArray.data.toList.toArray⟩ : ByteArray) = s.toByteArray := by simp
    rw [he, dif_pos s.isValidUTF8]
    rfl

theorem decode?_encode (s : String) : decode? (encode s) = some s :=
  decode?_eq_some_iff.2 rfl

end Hydration.Text.Utf8
