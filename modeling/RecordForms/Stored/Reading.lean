import RecordForms.Json.Printer
import RecordForms.Json.Reader
import RecordForms.Stored.Basic

/-! Which stored value a JSON value stands for. A node and a reference may be written as an object
or as the list of its fields, so a list can be read as a node, as a reference or as a list, and the
first of these that fits counts. -/
namespace RecordForms.Stored

/-- What a JSON value can stand for, by the place where it is found. -/
structure Roles where
  name : Option String
  target : Option (Option String)
  settings : Option (List (String × Stored))
  value : Option Stored

namespace Roles

def only (value : Option Stored) : Roles := ⟨none, none, none, value⟩

def ofText (text : String) : Roles := ⟨some text, some (some text), none, some (.text text)⟩

/-- Null is no value, but it is the target of a reference without one. -/
def ofNull : Roles := ⟨none, some none, none, none⟩

/-- A whole number of more than 64 bits with its sign is read as a binary one. -/
def ofNumeral : Numeral → Roles
  | .whole n =>
    if -twoTo 63 ≤ n && n < twoTo 63 then only (some (.int (Int64.ofInt n)))
    else only (some (.float (.signed (n < 0) (.ofNat n.natAbs))))
  | .real x => only (some (.float x))

def values? : List Roles → Option (List Stored)
  | [] => some []
  | item :: items => do return (← item.value) :: (← values? items)

def properties? : List (String × Roles) → Option (List (String × Stored))
  | [] => some []
  | (property, item) :: items => do return (property, ← item.value) :: (← properties? items)

def node? (id concept : Roles) (settings : Option Roles) : Option Stored := do
  let entries ← match settings with
    | none => some []
    | some roles => roles.settings
  return .node (← id.name) (← concept.name) entries

def nodeOfItems? : List Roles → Option Stored
  | [id, concept] => node? id concept none
  | [id, concept, settings] => node? id concept (some settings)
  | _ => none

def referenceOfItems? : List Roles → Option Stored
  | [] => some (.reference none)
  | [target] => target.target.map .reference
  | _ => none

def ofItems (items : List Roles) : Roles :=
  only ((nodeOfItems? items).or ((referenceOfItems? items).or ((values? items).map .list)))

def fieldsAmong (names : List String) (members : List (String × Roles)) : Bool :=
  let given := members.map (·.1)
  given.all names.contains && given.Nodup

def nodeOfMembers? (members : List (String × Roles)) : Option Stored := do
  guard (fieldsAmong ["id", "concept", "settings"] members)
  node? (← members.lookup "id") (← members.lookup "concept") (members.lookup "settings")

def referenceOfMembers? (members : List (String × Roles)) : Option Stored := do
  guard (fieldsAmong ["refId"] members)
  match members.lookup "refId" with
  | none => some (.reference none)
  | some roles => roles.target.map .reference

/-- Of two members with one name the later one counts, but both have to be values. -/
def ofMembers (members : List (String × Roles)) : Roles where
  name := none
  target := none
  settings := (properties? members).map fun entries => (TextMap.ofList entries).entries
  value := (nodeOfMembers? members).or (referenceOfMembers? members)

end Roles

mutual

def rolesOf : Json → Roles
  | .null => .ofNull
  | .bool b => .only (some (.bool b))
  | .number n => .ofNumeral n
  | .string s => .ofText s
  | .list items => .ofItems (rolesOfItems items)
  | .object members => .ofMembers (rolesOfMembers members)

def rolesOfItems : List Json → List Roles
  | [] => []
  | item :: items => rolesOf item :: rolesOfItems items

def rolesOfMembers : List (String × Json) → List (String × Roles)
  | [] => []
  | (name, value) :: members => (name, rolesOf value) :: rolesOfMembers members

end

def ofJson? (json : Json) : Option Stored := (rolesOf json).value

inductive ReadError where
  | malformed (reason : Json.Reason) (position : Json.Position)
  | mismatch
deriving DecidableEq

def ReadError.ofFault (text : String) (fault : Json.Fault) : ReadError :=
  .malformed fault.reason (fault.position text)

def ReadError.message : ReadError → String
  | .malformed reason position =>
    s!"{reason.message} at line {position.line} column {position.column}"
  | .mismatch => "data did not match any variant of untagged enum PersistedValue"

/-- Reads the value at the beginning of the text first, and then looks at what follows it. -/
def read (text : String) : Except ReadError Stored :=
  match Json.beginning text with
  | .error fault => .error (.ofFault text fault)
  | .ok start =>
    match ofJson? start.value, start.trailing with
    | none, _ => .error .mismatch
    | some _, some fault => .error (.ofFault text fault)
    | some value, none => .ok value

def compactText (value : Stored) : String := String.ofList value.toJson.compact

def prettyText (value : Stored) : String := String.ofList (value.toJson.pretty 0)

end RecordForms.Stored
