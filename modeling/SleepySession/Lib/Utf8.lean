import Mathlib.Tactic

/-!
# Texts as bytes

The encoding of a text in UTF-8 and the decoding that undoes it, over lists.
-/

namespace SleepySession

/-- The bytes of a text. -/
def utf8Bytes (text : List Char) : List UInt8 :=
  text.flatMap String.utf8EncodeChar

/-- The text of some bytes, if they are valid UTF-8. -/
def fromUtf8 (bytes : List UInt8) : Option (List Char) :=
  (ByteArray.utf8Decode? ⟨bytes.toArray⟩).map Array.toList

@[simp] theorem utf8Bytes_nil : utf8Bytes [] = [] :=
  rfl

@[simp] theorem utf8Bytes_cons (c : Char) (text : List Char) :
    utf8Bytes (c :: text) = String.utf8EncodeChar c ++ utf8Bytes text :=
  rfl

@[simp] theorem utf8Bytes_append (text text' : List Char) :
    utf8Bytes (text ++ text') = utf8Bytes text ++ utf8Bytes text' :=
  List.flatMap_append

theorem utf8Encode_eq (text : List Char) : text.utf8Encode = ⟨(utf8Bytes text).toArray⟩ := by
  refine ByteArray.ext ?_
  simp [List.utf8Encode, utf8Bytes]

theorem fromUtf8_utf8Bytes (text : List Char) : fromUtf8 (utf8Bytes text) = some text := by
  rw [fromUtf8, ← utf8Encode_eq, List.utf8Decode?_utf8Encode]
  rfl

theorem fromUtf8_eq_some {bytes : List UInt8} {text : List Char} :
    fromUtf8 bytes = some text ↔ utf8Bytes text = bytes := by
  constructor
  · intro h
    rw [fromUtf8, Option.map_eq_some_iff] at h
    obtain ⟨chars, hchars, rfl⟩ := h
    have hencode := @ByteArray.utf8Encode_get_utf8Decode? ⟨bytes.toArray⟩ (by simp [hchars])
    simp only [hchars, Option.get_some] at hencode
    rw [utf8Encode_eq] at hencode
    simpa using hencode
  · rintro rfl
    exact fromUtf8_utf8Bytes text

end SleepySession
