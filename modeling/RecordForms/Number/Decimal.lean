import RecordForms.Number.Notation

/-! Decimal numbers of 96 bits with up to 28 places, as people type them into a
document. Reading rounds what does not fit after the point and refuses what does not
fit before it; the places written are kept, so `12.50` stays `12.50`. -/
namespace RecordForms

/-- The number `mantissa / 10 ^ places`, with its sign. -/
structure Decimal where
  negative : Bool
  mantissa : Nat
  places : Nat
deriving DecidableEq

namespace Decimal

def mantissaLimit : Nat := twoTo 96

def placesLimit : Nat := 28

/-- A mantissa that takes its next digit in the wide form of the reader. -/
def wideFrom : Nat := (twoTo 64 - 1) / 10 - 255

def digit? (c : Char) : Option Nat :=
  if c.isDigit then some (digitValue c) else none

def isTail (cs : List Char) : Bool := cs.all fun c => c.isDigit || c == '_'

/-- Rounds by the first digit that does not fit. A mantissa that grows out of its
96 bits gives up its last place. -/
def roundBy (mantissa places digit : Nat) : Option (Nat × Nat) :=
  if digit < 5 then some (mantissa, places)
  else if mantissa + 1 < mantissaLimit then some (mantissa + 1, places)
  else if places = 0 then none
  else some ((mantissa + 5) / 10, places - 1)

/-- The mantissa and places once every place is taken and `cs` follows. In the wide form a
separator is passed over; before that it stands for a zero. -/
def full (wide : Bool) (mantissa places : Nat) : List Char → Option (Nat × Nat)
  | [] => some (mantissa, places)
  | c :: cs =>
    if c = '_' then
      if wide then full wide mantissa places cs
      else if isTail cs then some (mantissa, places) else none
    else
      match digit? c with
      | some digit => if isTail cs then roundBy mantissa places digit else none
      | none => none

def digits (point started : Bool) (mantissa places : Nat) : List Char → Option (Nat × Nat)
  | [] => if started then some (mantissa, places) else none
  | c :: cs =>
    match digit? c with
    | some digit =>
      let next := mantissa * 10 + digit
      let taken := if point then places + 1 else 0
      if mantissaLimit ≤ next then
        if point && isTail cs then roundBy mantissa places digit else none
      else if point && placesLimit ≤ taken then full (wideFrom ≤ mantissa) next taken cs
      else digits point true next taken cs
    | none =>
      if c = '.' && !point then digits true started mantissa places cs
      else if c = '_' && started then digits point started mantissa places cs
      else none

def ofParts (negative : Bool) (parts : Nat × Nat) : Decimal :=
  ⟨negative && parts.1 != 0, parts.1, parts.2⟩

def plain? : List Char → Option Decimal
  | '-' :: cs => (digits false false 0 0 cs).map (ofParts true)
  | '+' :: cs => (digits false false 0 0 cs).map (ofParts false)
  | cs => (digits false false 0 0 cs).map (ofParts false)

def exponent? (cs : List Char) : Option Nat := naturalBelow? (twoTo 32) cs

def dropPlaces (d : Decimal) (count : Nat) : Decimal :=
  let rest := d.mantissa / tenTo (count - 1)
  if count = 0 then d
  else { d with mantissa := rest / 10 + if 5 ≤ rest % 10 then 1 else 0, places := d.places - count }

def pointLeft (d : Decimal) (n : Nat) : Option Decimal :=
  if placesLimit < n then none
  else if d.places + n ≤ placesLimit then some { d with places := d.places + n }
  else some { d.dropPlaces (d.places + n - placesLimit) with places := placesLimit }

def pointRight (d : Decimal) (n : Nat) : Option Decimal :=
  if n ≤ d.places then some { d with places := d.places - n }
  else if placesLimit < n then none
  else
    let mantissa := d.mantissa * tenTo (n - d.places)
    if mantissa < mantissaLimit then some { d with mantissa, places := 0 } else none

def withExponent? (cs : List Char) : Option Decimal :=
  let isMark := fun c : Char => c == 'e' || c == 'E'
  match cs.dropWhile fun c => !isMark c with
  | [] => none
  | _ :: exponent =>
    (plain? (cs.takeWhile fun c => !isMark c)).bind fun base =>
      match exponent with
      | '-' :: size => (exponent? size).bind base.pointLeft
      | size => (exponent? size).bind base.pointRight

def read? (cs : List Char) : Option Decimal := (plain? cs).or (withExponent? cs)

def text (d : Decimal) : List Char :=
  (if d.negative then ['-'] else []) ++ pointed (decimalDigits d.mantissa) d.places

end Decimal

end RecordForms
