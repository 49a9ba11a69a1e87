import RecordForms.Model.Document

/-! Walks along ownership. A node comes before its children, and children come in the order of the
properties that hold them. References are not followed, so walks end whatever they point at. -/
namespace RecordForms

structure Dangling where
  node : NodeId
  property : String
  target : NodeId
deriving DecidableEq

namespace Document

def treeWithin (doc : Document) : Nat → NodeId → List Node
  | 0, _ => []
  | depth + 1, id =>
    match doc.get? id with
    | some node => node :: node.children.flatMap (doc.treeWithin depth)
    | none => []

/-- The nodes at and below an id. A chain of owned nodes that does not come back to a node is not
longer than the document is large. -/
def tree (doc : Document) (id : NodeId) : List Node := doc.treeWithin doc.size id

def instances (doc : Document) (concept : String) (id : NodeId) : List Node :=
  (doc.tree id).filter (·.isA concept)

def instancesIn (doc : Document) (concept : String) (value : Value) : List Node :=
  value.owned.flatMap (doc.instances concept)

def danglingAt (doc : Document) (node : Node) : List Dangling :=
  node.settings.entries.flatMap fun (property, value) =>
    (value.targets.filter fun target => !doc.contains target).map fun target =>
      ⟨node.id, property, target⟩

def dangling (doc : Document) : List Dangling := (doc.tree doc.root).flatMap doc.danglingAt

/-- Whether the root leads to an id. Where every node carries the id it is kept under, the tree has
the root and asking for it apart is redundant; it is asked for so that `prune` keeps the root of any
document. -/
def isReachable (doc : Document) (id : NodeId) : Bool :=
  id == doc.root || (doc.tree doc.root).any (·.id == id)

def prune (doc : Document) : Document where
  root := doc.root
  nodes := doc.nodes.filter doc.isReachable
  parents := doc.parents.filter doc.isReachable
  root_mem := by simp [doc.root_mem, isReachable]

def isComputed (node : Node) : Bool :=
  ((node.get? Property.value).bind Value.asNode?).isSome

def referencedBy? (doc : Document) (reference : Node) : Option Node :=
  ((reference.get? Property.referenced).bind Value.asReference?).bind fun target =>
    (doc.resolve target).node?

def referencedIn (doc : Document) (node : Node) (property : String) : List NodeId :=
  match node.get? property with
  | some value =>
    ((doc.instancesIn Concept.attributeReference value).filterMap doc.referencedBy?).map (·.id)
  | none => []

/-- The attributes that an attribute reads, each once, in the order of their first mention. -/
def reads (doc : Document) (node : Node) : List NodeId :=
  (doc.referencedIn node Property.initialValue
    ++ doc.referencedIn node Property.value).eraseDups

end Document

end RecordForms
