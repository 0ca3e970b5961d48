namespace Graft.Text.Utf8

def encode (text : String) : List UInt8 := text.toUTF8.data.toList

/-- The text of well-formed bytes. -/
def decode? (bytes : List UInt8) : Option String := String.fromUTF8? ⟨bytes.toArray⟩

theorem decode?_encode (text : String) : decode? (encode text) = some text := by
  have h : ByteArray.IsValidUTF8 (⟨text.toByteArray.data⟩ : ByteArray) := text.isValidUTF8
  simp only [decode?, encode, String.fromUTF8?]
  simp [h]
  rfl

end Graft.Text.Utf8
