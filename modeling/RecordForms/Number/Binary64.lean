import RecordForms.Number.Digits

/-! Binary floating point numbers of 64 bits, kept as their bits. A finite
magnitude is a whole number of units of 2^-1074, so all arithmetic is exact
arithmetic on naturals followed by one rounding to the nearest number. -/
namespace RecordForms

structure Binary64 where
  bits : UInt64
deriving DecidableEq

namespace Binary64

def signBit : Nat := twoTo 63

def significands : Nat := twoTo 52

def infinityBits : Nat := 2047 * significands

/-- The smallest positive number is one unit, and one is this many units. -/
def unitsInOne : Nat := twoTo 1074

def isNegative (x : Binary64) : Bool := signBit ≤ x.bits.toNat

def exponentField (x : Binary64) : Nat := x.bits.toNat / significands % 2048

def fractionField (x : Binary64) : Nat := x.bits.toNat % significands

def isFinite (x : Binary64) : Bool := x.exponentField != 2047

def isNaN (x : Binary64) : Bool := x.exponentField == 2047 && x.fractionField != 0

/-- Small numbers have no leading bit of their own. -/
def significand (x : Binary64) : Nat :=
  if x.exponentField = 0 then x.fractionField else significands + x.fractionField

/-- A finite magnitude is `significand * 2 ^ shift` units. -/
def shift (x : Binary64) : Nat := x.exponentField - 1

def units (x : Binary64) : Nat := x.significand * twoTo x.shift

def isZero (x : Binary64) : Bool := x.exponentField == 0 && x.fractionField == 0

def divideToEven (num den : Nat) : Nat :=
  let quotient := num / den
  let rest := num % den
  if 2 * rest < den then quotient
  else if den < 2 * rest then quotient + 1
  else quotient + quotient % 2

/-- The number nearest to `num / den`; beyond the largest one it is infinity.
A quotient of 53 bits or fewer is kept in units, a larger one in the power of two
of units that leaves 53 bits. Rounding up to the next power of two carries into the exponent. -/
def ofRatio (num den : Nat) : Binary64 :=
  let total := num * unitsInOne
  let shift := (total / den).log2 - 52
  ⟨UInt64.ofNat (min infinityBits (shift * significands + divideToEven total (den * twoTo shift)))⟩

def ofNat (n : Nat) : Binary64 := ofRatio n 1

def neg (x : Binary64) : Binary64 := ⟨x.bits ^^^ UInt64.ofNat signBit⟩

def times (x y : Binary64) : Binary64 := ofRatio (x.units * y.units) (unitsInOne * unitsInOne)

def dividedBy (x y : Binary64) : Binary64 := ofRatio x.units y.units

def signed (negative : Bool) (magnitude : Binary64) : Binary64 :=
  if negative then magnitude.neg else magnitude

end Binary64

end RecordForms
