/-!
# Bytes

What files and pipes hold. A text and its bytes determine each other; bytes that encode no text
have none.
-/

namespace Microbench

/-- The content of a file or a pipe. -/
abbrev Bytes := List UInt8

namespace Bytes

/-- The bytes of a text. -/
def ofText (s : String) : Bytes := s.toUTF8.data.toList

/-- The text that the bytes encode, if they do. -/
def text? (bs : Bytes) : Option String := String.fromUTF8? ⟨bs.toArray⟩

/-- The bytes for a reader: as a text, or one character a byte where they encode none. -/
def shown (bs : Bytes) : String :=
  (text? bs).getD (String.ofList (bs.map fun b => Char.ofNat b.toNat))

@[simp] theorem text?_ofText (s : String) : text? (ofText s) = some s := by
  have e : (⟨(ofText s).toArray⟩ : ByteArray) = s.toByteArray := by simp [ofText]
  rw [text?, e, String.fromUTF8?, dif_pos s.isValidUTF8]
  rfl

@[simp] theorem ofText_append (s t : String) : ofText (s ++ t) = ofText s ++ ofText t := by
  simp [ofText]

end Bytes

end Microbench
