import RecordForms.Json.Basic
import RecordForms.TextMap

/-! Documents as they are stored: nodes nested by ownership, with references by id. -/
namespace RecordForms

/-- A stored value. The settings of a node stand in increasing order of their properties
in every value that is read or saved. -/
inductive Stored where
  | node (id concept : String) (settings : List (String × Stored))
  | reference (target : Option String)
  | list (items : List Stored)
  | bool (b : Bool)
  | int (n : Int64)
  | float (x : Binary64)
  | text (s : String)

namespace Stored

/-- A number that is not finite has no JSON form and is stored as null. -/
def floatJson (x : Binary64) : Json := if x.isFinite then .number (.real x) else .null

mutual

def toJson : Stored → Json
  | .node id concept settings =>
    .object [("id", .string id), ("concept", .string concept),
      ("settings", .object (settingsJson settings))]
  | .reference none => .object [("refId", .null)]
  | .reference (some target) => .object [("refId", .string target)]
  | .list items => .list (itemsJson items)
  | .bool b => .bool b
  | .int n => .number (.whole n.toInt)
  | .float x => floatJson x
  | .text s => .string s

def itemsJson : List Stored → List Json
  | [] => []
  | item :: items => item.toJson :: itemsJson items

def settingsJson : List (String × Stored) → List (String × Json)
  | [] => []
  | (property, value) :: settings => (property, value.toJson) :: settingsJson settings

end

end Stored

end RecordForms
