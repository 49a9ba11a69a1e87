import RecordForms.Number.Notation

/-! JSON values. An object keeps all its members in the order in which they are
written, so that a name given twice can be seen. -/
namespace RecordForms

/-- A number is whole when it is written without point and exponent and fits into 64 bits. -/
inductive Numeral where
  | whole (n : Int)
  | real (x : Binary64)
deriving DecidableEq

inductive Json where
  | null
  | bool (b : Bool)
  | number (n : Numeral)
  | string (text : String)
  | list (items : List Json)
  | object (members : List (String × Json))

end RecordForms
