import RecordForms.Json.Basic

/-! JSON texts of values: compact without any blanks, and pretty with one item or member a line,
two blanks deeper than the container. -/
namespace RecordForms.Json

def escapeChar (c : Char) : List Char :=
  match c with
  | '"' => ['\\', '"']
  | '\\' => ['\\', '\\']
  | '\x08' => ['\\', 'b']
  | '\x0c' => ['\\', 'f']
  | '\n' => ['\\', 'n']
  | '\r' => ['\\', 'r']
  | '\t' => ['\\', 't']
  | c =>
    if c.toNat < 0x20 then
      ['\\', 'u', '0', '0', Nat.digitChar (c.toNat / 16), Nat.digitChar (c.toNat % 16)]
    else [c]

def stringText (text : String) : List Char :=
  '"' :: text.toList.flatMap escapeChar ++ ['"']

def boolText (b : Bool) : List Char :=
  if b then ['t', 'r', 'u', 'e'] else ['f', 'a', 'l', 's', 'e']

def numeralText : Numeral → List Char
  | .whole n => integerText n
  | .real x => x.stored

mutual

def compact : Json → List Char
  | .null => ['n', 'u', 'l', 'l']
  | .bool b => boolText b
  | .number n => numeralText n
  | .string text => stringText text
  | .list [] => ['[', ']']
  | .list (item :: items) => '[' :: compact item ++ compactItems items ++ [']']
  | .object [] => ['\x7b', '\x7d']
  | .object ((key, value) :: members) =>
    '\x7b' :: stringText key ++ ':' :: compact value ++ compactMembers members ++ ['\x7d']

def compactItems : List Json → List Char
  | [] => []
  | item :: items => ',' :: compact item ++ compactItems items

def compactMembers : List (String × Json) → List Char
  | [] => []
  | (key, value) :: members =>
    ',' :: stringText key ++ ':' :: compact value ++ compactMembers members

end

def newLine (depth : Nat) : List Char := '\n' :: List.replicate (2 * depth) ' '

mutual

/-- The text with one item or member a line, inside `depth` containers. -/
def pretty (depth : Nat) : Json → List Char
  | .null => ['n', 'u', 'l', 'l']
  | .bool b => boolText b
  | .number n => numeralText n
  | .string text => stringText text
  | .list [] => ['[', ']']
  | .list (item :: items) =>
    '[' :: newLine (depth + 1) ++ pretty (depth + 1) item ++ prettyItems (depth + 1) items
      ++ newLine depth ++ [']']
  | .object [] => ['\x7b', '\x7d']
  | .object ((key, value) :: members) =>
    '\x7b' :: newLine (depth + 1) ++ stringText key ++ ':' :: ' ' :: pretty (depth + 1) value
      ++ prettyMembers (depth + 1) members ++ newLine depth ++ ['\x7d']

def prettyItems (depth : Nat) : List Json → List Char
  | [] => []
  | item :: items => ',' :: newLine depth ++ pretty depth item ++ prettyItems depth items

def prettyMembers (depth : Nat) : List (String × Json) → List Char
  | [] => []
  | (key, value) :: members =>
    ',' :: newLine depth ++ stringText key ++ ':' :: ' ' :: pretty depth value
      ++ prettyMembers depth members

end

end RecordForms.Json
