/-! Powers of two and ten, and naturals in decimal. -/
namespace RecordForms

def twoTo (n : Nat) : Nat := Nat.pow 2 n

def tenTo (n : Nat) : Nat := Nat.pow 10 n

def digitValue (c : Char) : Nat := c.toNat - '0'.toNat

def digitsValue (cs : List Char) : Nat := cs.foldl (fun n c => n * 10 + digitValue c) 0

def naturalBelow? (limit : Nat) (cs : List Char) : Option Nat :=
  let digits := if cs.head? = some '+' then cs.tail else cs
  if digits.isEmpty || !digits.all Char.isDigit || limit ≤ digitsValue digits then none
  else some (digitsValue digits)

def decimalDigits (n : Nat) : List Char := Nat.toDigits 10 n

def integerText (n : Int) : List Char :=
  if n < 0 then '-' :: decimalDigits n.natAbs else decimalDigits n.natAbs

def zeros (n : Nat) : List Char := List.replicate n '0'

/-- Digits with a point before the last `places` of them and at least one digit before the point. -/
def pointed (digits : List Char) (places : Nat) : List Char :=
  let padded := zeros (places + 1 - digits.length) ++ digits
  let whole := padded.take (padded.length - places)
  if places = 0 then whole else whole ++ '.' :: padded.drop (padded.length - places)

end RecordForms
