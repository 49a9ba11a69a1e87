import RecordForms.Number.Shortest

/-! How numbers are written: positional notation, and the notation of stored
documents, which adds an exponent to very large and very small numbers. -/
namespace RecordForms

namespace Scientific

def positional (s : Scientific) : List Char :=
  if s.exponent < 0 then pointed (decimalDigits s.coefficient) s.exponent.natAbs
  else decimalDigits s.coefficient ++ zeros s.exponent.natAbs

def leadingExponent (s : Scientific) : Int :=
  s.exponent + (decimalDigits s.coefficient).length - 1

def exponentText (exponent : Int) : List Char :=
  'e' :: (if exponent < 0 then '-' else '+') :: decimalDigits exponent.natAbs

def withExponent (s : Scientific) : List Char :=
  let digits := decimalDigits s.coefficient
  pointed digits (digits.length - 1) ++ exponentText s.leadingExponent

end Scientific

namespace Binary64

def signText (x : Binary64) : List Char := if x.isNegative then ['-'] else []

/-- Positional notation with the fewest digits, a tie going up. Whole numbers have no point. -/
def display (x : Binary64) : List Char :=
  if x.isNaN then ['N', 'a', 'N']
  else if !x.isFinite then x.signText ++ ['i', 'n', 'f']
  else if x.isZero then x.signText ++ ['0']
  else x.signText ++ (x.shortest .up).positional

def displayText (x : Binary64) : String := String.ofList x.display

def storedPositionally (s : Scientific) : Bool :=
  -5 ≤ s.leadingExponent && s.leadingExponent < 16

/-- The notation of stored documents: a number always shows a point or an exponent,
and a tie goes to the even digit. -/
def storedDigits (s : Scientific) : List Char :=
  if storedPositionally s then
    if s.exponent < 0 then s.positional else s.positional ++ ['.', '0']
  else s.withExponent

def stored (x : Binary64) : List Char :=
  if x.isZero then x.signText ++ ['0', '.', '0']
  else x.signText ++ storedDigits (x.shortest .toEven)

end Binary64

end RecordForms
