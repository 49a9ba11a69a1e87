import RecordForms.Number.Binary64
import RecordForms.TextMap

/-! What a property of a node can hold. A node that is held by a value is owned; a reference
only names a node. -/
namespace RecordForms

abbrev NodeId := String

inductive Value where
  | bool (b : Bool)
  | int (n : Int64)
  | float (x : Binary64)
  | text (s : String)
  | node (id : NodeId)
  | reference (target : Option NodeId)
  | list (items : List Value)

abbrev Settings := TextMap Value

namespace Value

def isPrimitive : Value → Bool
  | .bool _ | .int _ | .float _ | .text _ => true
  | _ => false

def asText? : Value → Option String
  | .text s => some s
  | _ => none

def asNode? : Value → Option NodeId
  | .node id => some id
  | _ => none

def asReference? : Value → Option (Option NodeId)
  | .reference target => some target
  | _ => none

def asList? : Value → Option (List Value)
  | .list items => some items
  | _ => none

mutual

def isFinite : Value → Bool
  | .float x => x.isFinite
  | .list items => allFinite items
  | _ => true

def allFinite : List Value → Bool
  | [] => true
  | item :: items => item.isFinite && allFinite items

end

mutual

def owned : Value → List NodeId
  | .node id => [id]
  | .list items => ownedByAll items
  | _ => []

def ownedByAll : List Value → List NodeId
  | [] => []
  | item :: items => item.owned ++ ownedByAll items

end

mutual

def targets : Value → List NodeId
  | .reference (some target) => [target]
  | .list items => targetsOfAll items
  | _ => []

def targetsOfAll : List Value → List NodeId
  | [] => []
  | item :: items => item.targets ++ targetsOfAll items

end

end Value

end RecordForms
