import RecordForms.Model.Node

/-! Documents: nodes by id, one of them the root, and the parent of each node that has one.
The parents can be told from the settings of all nodes; they are kept so that a parent is found
without a search. -/
namespace RecordForms

structure Document where
  root : NodeId
  nodes : TextMap Node
  /-- The parent of each node that is owned. -/
  parents : TextMap NodeId
  root_mem : nodes.contains root = true

inductive Resolution where
  | resolved (node : Node)
  | dangling (target : NodeId)
  | absent

def Resolution.node? : Resolution → Option Node
  | .resolved node => some node
  | _ => none

namespace Document

def new (root : NodeId) (concept : String) : Document where
  root := root
  nodes := TextMap.empty.insert root ⟨root, concept, .empty⟩
  parents := .empty
  root_mem := by simp

def get? (doc : Document) (id : NodeId) : Option Node := doc.nodes.get? id

def contains (doc : Document) (id : NodeId) : Bool := doc.nodes.contains id

def rootNode (doc : Document) : Node := (doc.nodes.get? doc.root).get doc.root_mem

def size (doc : Document) : Nat := doc.nodes.size

def parent? (doc : Document) (id : NodeId) : Option NodeId := doc.parents.get? id

def adopt (parent : NodeId) (children : List NodeId) (parents : TextMap NodeId) :
    TextMap NodeId :=
  children.foldl (fun map child => map.insert child parent) parents

def release (children : List NodeId) (parents : TextMap NodeId) : TextMap NodeId :=
  children.foldl TextMap.erase parents

@[simp] theorem get?_adopt (parent : NodeId) (children : List NodeId) (parents : TextMap NodeId)
    (id : NodeId) :
    (adopt parent children parents).get? id =
      if id ∈ children then some parent else parents.get? id := by
  induction children generalizing parents with
  | nil => simp [adopt]
  | cons child rest ih =>
    have h := ih (parents.insert child parent)
    simp only [adopt, List.foldl_cons] at h ⊢
    rw [h, TextMap.get?_insert]
    by_cases hrest : id ∈ rest <;> by_cases hchild : id = child <;> simp [hrest, hchild]

@[simp] theorem get?_release (children : List NodeId) (parents : TextMap NodeId) (id : NodeId) :
    (release children parents).get? id = if id ∈ children then none else parents.get? id := by
  induction children generalizing parents with
  | nil => simp [release]
  | cons child rest ih =>
    have h := ih (parents.erase child)
    simp only [release, List.foldl_cons] at h ⊢
    rw [h, TextMap.get?_erase]
    by_cases hrest : id ∈ rest <;> by_cases hchild : id = child <;> simp [hrest, hchild]

/-- The parents as the settings of the nodes tell them. -/
def parentsOf (nodes : TextMap Node) : TextMap NodeId :=
  nodes.values.foldl (fun parents node => adopt node.id node.children parents) .empty

def ofNodes (root : NodeId) (nodes : TextMap Node) (root_mem : nodes.contains root = true) :
    Document :=
  ⟨root, nodes, parentsOf nodes, root_mem⟩

def resolve (doc : Document) (target : Option NodeId) : Resolution :=
  match target with
  | none => .absent
  | some id =>
    match doc.get? id with
    | some node => .resolved node
    | none => .dangling id

def isNode (doc : Document) (value : Value) : Bool := value.asNode?.any doc.contains

def isReference (doc : Document) (value : Value) : Bool :=
  value.asReference?.any fun target => (doc.resolve target).node?.isSome

def nodeOf? (doc : Document) (value : Value) : Option Node := value.asNode?.bind doc.get?

def lineageWithin (doc : Document) : Nat → NodeId → List NodeId
  | 0, _ => []
  | limit + 1, id =>
    match doc.parent? id with
    | some parent => id :: doc.lineageWithin limit parent
    | none => [id]

/-- An id, its parent, the parent of that, and so on. A chain that does not come back to an id has
at most one id more than there are nodes with a parent. -/
def lineage (doc : Document) (id : NodeId) : List NodeId :=
  doc.lineageWithin (doc.parents.size + 1) id

end Document

end RecordForms
