import RecordForms.Model.Document

/-! Edits of a document. An edit is refused when it would leave a node with two parents, a node
among its own ancestors, the root with a parent, a child that does not exist, or a number that is
not finite. The checks look at the place of the edit only. -/
namespace RecordForms

inductive Refusal where
  | unknownNode (id : NodeId)
  | notAList (node : NodeId) (property : String)
  | outOfBounds (node : NodeId) (property : String) (index length : Nat)
  | alreadyOwned (child owner : NodeId)
  | ownershipCycle (child parent : NodeId)
  | rootAsChild (root : NodeId)
  | notFinite (node : NodeId) (property : String)
deriving DecidableEq

def Refusal.message : Refusal → String
  | .unknownNode id => s!"unknown node: {id}"
  | .notAList node property => s!"property '{property}' of {node} is not a sequence"
  | .outOfBounds node property index length =>
    s!"index {index} is out of bounds for property '{property}' of {node} (length {length})"
  | .alreadyOwned child owner => s!"{child} is already owned by {owner}"
  | .ownershipCycle child parent =>
    s!"attaching {child} under {parent} would create an ownership cycle"
  | .rootAsChild root => s!"the root {root} cannot be attached as a child"
  | .notFinite node property =>
    s!"property '{property}' of {node} would hold a non-finite number"

inductive Edit where
  | create (id : NodeId) (concept : String) (settings : Settings)
  | assign (node : NodeId) (property : String) (value : Option Value)
  /-- Replaces an element of a list, adds one at its end, or removes one. -/
  | assignAt (node : NodeId) (property : String) (index : Nat) (value : Option Value)

/-- What an edit has changed, as it is told to whoever follows the document. -/
inductive Change where
  | created (node : NodeId) (concept : String)
  | propertySet (node : NodeId) (property : String)
  | propertyRemoved (node : NodeId) (property : String)
  | elementReplaced (node : NodeId) (property : String) (index : Nat)
  | elementRemoved (node : NodeId) (property : String) (index : Nat)
deriving DecidableEq

def Edit.change : Edit → Change
  | .create id concept _ => .created id concept
  | .assign node property (some _) => .propertySet node property
  | .assign node property none => .propertyRemoved node property
  | .assignAt node property index (some _) => .elementReplaced node property index
  | .assignAt node property index none => .elementRemoved node property index

namespace Document

/-- A child may be attached under `parent` if it exists, is not the root, comes only once, is free
or set free by the edit, and is no ancestor of `parent`. -/
def checkChild (doc : Document) (parent : NodeId) (released seen : List NodeId)
    (child : NodeId) : Except Refusal Unit :=
  if !doc.contains child then .error (.unknownNode child)
  else if child = doc.root then .error (.rootAsChild child)
  else if seen.contains child then .error (.alreadyOwned child parent)
  else
    match (doc.parent? child).filter fun owner => !(owner == parent && released.contains child) with
    | some owner => .error (.alreadyOwned child owner)
    | none =>
      if (doc.lineage parent).contains child then .error (.ownershipCycle child parent) else .ok ()

def checkChildren (doc : Document) (parent : NodeId) (released seen : List NodeId) :
    List NodeId → Except Refusal Unit
  | [] => .ok ()
  | child :: rest =>
    match doc.checkChild parent released seen child with
    | .error refusal => .error refusal
    | .ok () => doc.checkChildren parent released (child :: seen) rest

def checkFinite (node : NodeId) (property : String) (value : Value) : Except Refusal Unit :=
  if value.isFinite then .ok () else .error (.notFinite node property)

def checkAllFinite (node : NodeId) : List (String × Value) → Except Refusal Unit
  | [] => .ok ()
  | (property, value) :: rest =>
    match checkFinite node property value with
    | .error refusal => .error refusal
    | .ok () => checkAllFinite node rest

def checkValue (doc : Document) (node : NodeId) (property : String) (old value : Option Value) :
    Except Refusal Unit :=
  match value with
  | none => .ok ()
  | some value =>
    match checkFinite node property value with
    | .error refusal => .error refusal
    | .ok () => doc.checkChildren node (old.elim [] Value.owned) [] value.owned

def put (doc : Document) (id : NodeId) (node : Node) (released attached : List NodeId) :
    Document where
  root := doc.root
  nodes := doc.nodes.insert id node
  parents := adopt id attached (release released doc.parents)
  root_mem := by simp [doc.root_mem]

@[simp] theorem get?_put (doc : Document) (id : NodeId) (node : Node)
    (released attached : List NodeId) (k : NodeId) :
    (doc.put id node released attached).get? k = if k = id then some node else doc.get? k :=
  TextMap.get?_insert doc.nodes id k node

@[simp] theorem parent?_put (doc : Document) (id : NodeId) (node : Node)
    (released attached : List NodeId) (k : NodeId) :
    (doc.put id node released attached).parent? k =
      if k ∈ attached then some id else if k ∈ released then none else doc.parent? k := by
  simp only [put, parent?, get?_adopt, get?_release]

def create (doc : Document) (id : NodeId) (concept : String) (settings : Settings) :
    Except Refusal Document := do
  checkAllFinite id settings.entries
  let node : Node := ⟨id, concept, settings⟩
  doc.checkChildren id [] [] node.children
  return doc.put id node [] node.children

def find (doc : Document) (id : NodeId) : Except Refusal Node :=
  match doc.get? id with
  | some node => .ok node
  | none => .error (.unknownNode id)

def referenceTo (doc : Document) (id : NodeId) : Except Refusal Value := do
  let _ ← doc.find id
  return .reference (some id)

def withProperty (settings : Settings) (property : String) : Option Value → Settings
  | some value => settings.insert property value
  | none => settings.erase property

def assign (doc : Document) (id : NodeId) (property : String) (value : Option Value) :
    Except Refusal Document := do
  let node ← doc.find id
  let old := node.get? property
  doc.checkValue id property old value
  let settings := withProperty node.settings property value
  return doc.put id { node with settings } (old.elim [] Value.owned) (value.elim [] Value.owned)

def findList (id : NodeId) (node : Node) (property : String) : Except Refusal (List Value) :=
  match (node.get? property).bind Value.asList? with
  | some items => .ok items
  | none => .error (.notAList id property)

def withElement (items : List Value) (index : Nat) : Option Value → List Value
  | some value => if index = items.length then items ++ [value] else items.set index value
  | none => items.eraseIdx index

/-- An element may be added right behind the last one, but not removed there. -/
def inBounds (items : List Value) (index : Nat) (value : Option Value) : Bool :=
  index < items.length || value.isSome && index == items.length

def assignAt (doc : Document) (id : NodeId) (property : String) (index : Nat)
    (value : Option Value) : Except Refusal Document := do
  let node ← doc.find id
  let items ← findList id node property
  if !inBounds items index value then
    throw (.outOfBounds id property index items.length)
  let old := items[index]?
  doc.checkValue id property old value
  let settings := node.settings.insert property (.list (withElement items index value))
  return doc.put id { node with settings } (old.elim [] Value.owned) (value.elim [] Value.owned)

def apply (doc : Document) : Edit → Except Refusal Document
  | .create id concept settings => doc.create id concept settings
  | .assign node property value => doc.assign node property value
  | .assignAt node property index value => doc.assignAt node property index value

end Document

end RecordForms
