/-!
# Encoded width

Positions in a pattern are counted in bytes of its UTF-8 encoding.
-/

namespace IcuMessage.Text

/-- The number of bytes of the UTF-8 encoding of a text. -/
def byteWidth : List Char → Nat
  | [] => 0
  | character :: rest => character.utf8Size + byteWidth rest

@[simp]
theorem byteWidth_nil : byteWidth [] = 0 := rfl

@[simp]
theorem byteWidth_cons (character : Char) (rest : List Char) :
    byteWidth (character :: rest) = character.utf8Size + byteWidth rest := rfl

@[simp]
theorem byteWidth_append (front back : List Char) :
    byteWidth (front ++ back) = byteWidth front + byteWidth back := by
  induction front with
  | nil => simp
  | cons character rest ih => simp [ih, Nat.add_assoc]

theorem utf8ByteSize_ofList (text : List Char) :
    (String.ofList text).utf8ByteSize = byteWidth text := by
  induction text with
  | nil => rfl
  | cons character rest ih =>
      rw [String.ofList_cons, String.utf8ByteSize_append, String.utf8ByteSize_singleton, ih,
        byteWidth_cons]

end IcuMessage.Text
