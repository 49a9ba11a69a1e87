import RecordForms.Json.Basic

/-! The value of a number in a JSON text. Its digits are gathered in 64 bits; digits beyond that
count as places only. The significand is then moved by powers of ten in binary arithmetic, each
step rounded, so the result can differ from the nearest number in its last bits. -/
namespace RecordForms.Numeral

/-- Appends digits to a significand up to the first that does not fit, and gives back the others. -/
def gather (significand : Nat) : List Char → Nat × List Char
  | [] => (significand, [])
  | c :: cs =>
    let next := significand * 10 + digitValue c
    if next < twoTo 64 then gather next cs else (significand, c :: cs)

def largestPower : Nat := 308

def powerOfTen (n : Nat) : Binary64 := .ofNat (tenTo n)

def divided (x : Binary64) (n : Nat) : Binary64 :=
  if n ≤ largestPower then x.dividedBy (powerOfTen n)
  else if x.isZero then x
  else divided (x.dividedBy (powerOfTen largestPower)) (n - largestPower)
termination_by n
decreasing_by simp only [largestPower] at *; omega

def scaled? (significand : Nat) (exponent : Int) : Option Binary64 :=
  let x := Binary64.ofNat significand
  if exponent < 0 then some (divided x exponent.natAbs)
  else if exponent ≤ largestPower then
    let product := x.times (powerOfTen exponent.natAbs)
    if product.isFinite then some product else none
  else if x.isZero then some x
  else none

/-- A number without point and exponent. A minus sign makes zero, and what is below the range
of 64 bits, a binary number. -/
def ofWhole (negative : Bool) (significand : Nat) : Numeral :=
  if !negative then .whole significand
  else if significand = 0 || twoTo 63 < significand then .real (Binary64.ofNat significand).neg
  else .whole (-significand)

structure Digits where
  negative : Bool
  whole : List Char
  fraction : List Char

def Digits.gathered (digits : Digits) : Nat × Int :=
  let (start, beyond) := gather 0 digits.whole
  let (significand, dropped) := gather start digits.fraction
  (significand, beyond.length - (digits.fraction.length - dropped.length : Nat))

def Digits.real? (digits : Digits) (exponent : Int) : Option Numeral :=
  let (significand, place) := digits.gathered
  (scaled? significand (place + exponent)).map fun x => .real (.signed digits.negative x)

def Digits.whole? (digits : Digits) : Option Numeral :=
  match gather 0 digits.whole with
  | (significand, []) => some (ofWhole digits.negative significand)
  | _ => digits.real? 0

/-- Exponents are read as long as they fit into 31 bits. Gives back the digits behind
the one that does not. -/
def exponent (value : Nat) : List Char → Except (List Char) Nat
  | [] => .ok value
  | c :: cs =>
    let next := value * 10 + digitValue c
    if next < twoTo 31 then exponent next cs else .error cs

end RecordForms.Numeral
