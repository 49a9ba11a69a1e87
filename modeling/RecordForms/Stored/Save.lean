import RecordForms.Model.Document
import RecordForms.Stored.Basic

/-! Saving a document: the root with everything it owns. -/
namespace RecordForms

mutual

def Value.saveWith (child : NodeId → Stored) : Value → Stored
  | .bool b => .bool b
  | .int n => .int n
  | .float x => .float x
  | .text s => .text s
  | .node id => child id
  | .reference target => .reference target
  | .list items => .list (Value.saveAllWith child items)

def Value.saveAllWith (child : NodeId → Stored) : List Value → List Stored
  | [] => []
  | item :: items => item.saveWith child :: Value.saveAllWith child items

end

namespace Document

/-- Saves a node with `depth` levels of what it owns. A node that is not there is
saved as a reference. -/
def saveIdWithin (doc : Document) : Nat → NodeId → Stored
  | 0, id => .reference (some id)
  | depth + 1, id =>
    match doc.get? id with
    | some node =>
      .node node.id node.concept
        (node.settings.entries.map fun e => (e.1, e.2.saveWith (doc.saveIdWithin depth)))
    | none => .reference (some id)

def saveId (doc : Document) (id : NodeId) : Stored := doc.saveIdWithin doc.size id

def saveValue (doc : Document) (value : Value) : Stored := value.saveWith doc.saveId

def save (doc : Document) : Stored := doc.saveId doc.root

end Document

end RecordForms
