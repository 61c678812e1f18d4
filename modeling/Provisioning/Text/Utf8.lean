set_option autoImplicit false

/-!
# Text as bytes

Attribute values, token files and sort orders all see text through its UTF-8 encoding.  This module fixes
that view once, as lists of bytes, and shows that reading inverts writing: `ofUtf8? (utf8 s) = some s`, and
whatever `ofUtf8?` accepts is the encoding of the text it returns.
-/

namespace Provisioning.Text

/-- The UTF-8 encoding of a text. -/
def utf8 (s : String) : List UInt8 := s.toByteArray.data.toList

/-- The text that a list of bytes encodes, if it is well-formed UTF-8. -/
def ofUtf8? (bytes : List UInt8) : Option String := String.fromUTF8? ⟨bytes.toArray⟩

@[simp] theorem ofUtf8?_utf8 (s : String) : ofUtf8? (utf8 s) = some s := by
  have h : (⟨s.toByteArray.data.toList.toArray⟩ : ByteArray) = s.toByteArray := by simp
  rw [ofUtf8?, utf8, h, String.fromUTF8?, dif_pos s.isValidUTF8]
  rfl

theorem utf8_of_ofUtf8? {bytes : List UInt8} {s : String} (h : ofUtf8? bytes = some s) :
    utf8 s = bytes := by
  unfold ofUtf8? String.fromUTF8? at h
  split at h
  · cases h
    simp [utf8, String.fromUTF8]
  · cases h

theorem utf8_injective {s t : String} (h : utf8 s = utf8 t) : s = t := by
  have h' := congrArg ofUtf8? h
  simpa using h'

@[simp] theorem utf8_inj {s t : String} : utf8 s = utf8 t ↔ s = t :=
  ⟨utf8_injective, fun h => h ▸ rfl⟩

end Provisioning.Text
