import RecordForms.Text.CharSet

/-! Blank characters, and texts without the blanks around them. -/
namespace RecordForms.Text

/-- White space of every script, line ends included. -/
def blankChars : CharSet := ⟨[
  (0x9, 0xd), (0x20, 0x20), (0x85, 0x85), (0xa0, 0xa0), (0x1680, 0x1680), (0x2000, 0x200a),
  (0x2028, 0x2029), (0x202f, 0x202f), (0x205f, 0x205f), (0x3000, 0x3000)]⟩

def isBlank (c : Char) : Bool := blankChars.contains c

def trim (cs : List Char) : List Char :=
  ((cs.dropWhile isBlank).reverse.dropWhile isBlank).reverse

end RecordForms.Text
