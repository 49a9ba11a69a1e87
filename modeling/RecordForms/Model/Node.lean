import RecordForms.Model.Value
import RecordForms.Model.Vocabulary
import RecordForms.Text.Name

/-! Nodes: an id, a concept and the values of some properties. Going through the properties
of a node has one order, that of their names. -/
namespace RecordForms

structure Node where
  id : NodeId
  concept : String
  settings : Settings

namespace Node

def get? (node : Node) (property : String) : Option Value := node.settings.get? property

def getText? (node : Node) (property : String) : Option String :=
  (node.get? property).bind Value.asText?

def isA (node : Node) (concept : String) : Bool := node.concept == concept

/-- Whether a property holds `child` itself, not in a list. -/
def ownsAt (node : Node) (property : String) (child : NodeId) : Bool :=
  (node.get? property).bind Value.asNode? == some child

def children (node : Node) : List NodeId := Value.ownedByAll node.settings.values

def codeName? (node : Node) : Option String :=
  ((node.getText? Property.name).map Text.camelCase).filter fun name => !name.isEmpty

end Node

end RecordForms
