import RecordForms.Number.Binary64

/-! The decimal with the fewest digits that reads back as a given number. The reals
that round to the number form an interval; the first decimal grid that has a point in it
gives the digits. Only the two grid points next to the number have to be tried. -/
namespace RecordForms

structure Scientific where
  coefficient : Nat
  exponent : Int
deriving DecidableEq

inductive Tie where
  | up
  | toEven

def Tie.choose (tie : Tie) (below : Nat) : Nat :=
  match tie with
  | .up => below + 1
  | .toEven => below + below % 2

structure Ratio where
  num : Nat
  den : Nat

def Ratio.perPowerOfTen (r : Ratio) (exponent : Int) : Ratio :=
  if exponent < 0 then ⟨r.num * tenTo exponent.natAbs, r.den⟩
  else ⟨r.num, r.den * tenTo exponent.natAbs⟩

namespace Binary64

def quartersInOne : Nat := 4 * unitsInOne

def magnitude (x : Binary64) : Ratio := ⟨4 * x.units, quartersInOne⟩

/-- Above a power of two the numbers lie twice as far apart as below it. -/
def atPowerOfTwo (x : Binary64) : Bool := x.fractionField == 0 && 1 < x.exponentField

def lowerEnd (x : Binary64) : Ratio :=
  ⟨(4 * x.significand - if x.atPowerOfTwo then 1 else 2) * twoTo x.shift, quartersInOne⟩

def upperEnd (x : Binary64) : Ratio := ⟨(4 * x.significand + 2) * twoTo x.shift, quartersInOne⟩

/-- A half way point itself rounds to the number with the even significand. -/
def ownsEnds (x : Binary64) : Bool := x.significand % 2 == 0

def accepts (x : Binary64) (coefficient : Nat) (exponent : Int) : Bool :=
  let low := x.lowerEnd.perPowerOfTen exponent
  let high := x.upperEnd.perPowerOfTen exponent
  if x.ownsEnds then low.num ≤ coefficient * low.den && coefficient * high.den ≤ high.num
  else low.num < coefficient * low.den && coefficient * high.den < high.num

/-- The point of the grid of step `10 ^ exponent` that is nearest to the number, among
the two next to it that round to it. -/
def onGrid? (x : Binary64) (tie : Tie) (exponent : Int) : Option Scientific :=
  let scaled := x.magnitude.perPowerOfTen exponent
  let below := scaled.num / scaled.den
  let rest := scaled.num % scaled.den
  match x.accepts below exponent, x.accepts (below + 1) exponent with
  | true, true =>
    if 2 * rest < scaled.den then some ⟨below, exponent⟩
    else if scaled.den < 2 * rest then some ⟨below + 1, exponent⟩
    else some ⟨tie.choose below, exponent⟩
  | true, false => some ⟨below, exponent⟩
  | false, true => some ⟨below + 1, exponent⟩
  | false, false => none

def decimalPlace (x : Binary64) : Int :=
  (decimalDigits (x.units * tenTo 330 / unitsInOne)).length - 330

def dropZeros : Nat → Scientific → Scientific
  | 0, s => s
  | n + 1, s =>
    if s.coefficient % 10 = 0 then dropZeros n ⟨s.coefficient / 10, s.exponent + 1⟩ else s

/-- The fewest digits that read back as the positive magnitude of `x`. Seventeen always do. -/
def shortest (x : Binary64) (tie : Tie) : Scientific :=
  let place := x.decimalPlace
  let found := (List.range 17).findSome? fun (n : Nat) => x.onGrid? tie (place - (n + 1))
  dropZeros 17 (found.getD ⟨0, 0⟩)

end Binary64

end RecordForms
