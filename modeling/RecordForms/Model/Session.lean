import RecordForms.Model.Edit
import RecordForms.Model.Tree
import RecordForms.Text.Quoted

/-! Work on a document, with a journal of the changes while somebody follows them. The document is
changed in place, one step after another, and a step that is refused keeps what the steps before it
have done. New ids are drawn outside: a node is created under the id that was drawn for it. -/
namespace RecordForms

structure Session where
  doc : Document
  /-- The changes since somebody began to follow them. -/
  journal : Option (List Change)

namespace Session

def ofDocument (doc : Document) : Session := ⟨doc, none⟩

def follow (session : Session) : Session := { session with journal := some [] }

def unfollow (session : Session) : Session := { session with journal := none }

def takeChanges (session : Session) : List Change × Session :=
  (session.journal.getD [], { session with journal := session.journal.map fun _ => [] })

def summary (session : Session) : String :=
  "Document \x7b root: NodeId(" ++ Text.quoted session.doc.root ++ "), objects: "
    ++ Nat.repr session.doc.size ++ ", observed: "
    ++ (if session.journal.isSome then "true" else "false") ++ " \x7d"

end Session

abbrev SessionM := EStateM Refusal Session

namespace SessionM

def look {α : Type} (f : Document → Except Refusal α) : SessionM α := fun session =>
  match f session.doc with
  | .ok a => .ok a session
  | .error refusal => .error refusal session

def changeParents (f : TextMap NodeId → TextMap NodeId) : SessionM Unit := fun session =>
  .ok () { session with doc := { session.doc with parents := f session.doc.parents } }

def exchange (id : NodeId) (old value : Option Value) : SessionM Unit := do
  changeParents (Document.release (old.elim [] Value.owned))
  changeParents (Document.adopt id (value.elim [] Value.owned))

/-- Puts a node under its id; the parents stay. -/
def write (id : NodeId) (node : Node) : SessionM Unit := fun session =>
  .ok () { session with doc := session.doc.put id node [] [] }

def note (change : Change) : SessionM Unit := fun session =>
  .ok () { session with journal := session.journal.map fun changes => changes ++ [change] }

def createNode (id : NodeId) (concept : String) (settings : Settings) : SessionM Unit := do
  look fun _ => Document.checkAllFinite id settings.entries
  let node : Node := ⟨id, concept, settings⟩
  look fun doc => doc.checkChildren id [] [] node.children
  changeParents (Document.adopt id node.children)
  write id node

/-- The node is looked up a second time to be written, when its children are exchanged already. -/
def assign (id : NodeId) (property : String) (value : Option Value) : SessionM Unit := do
  let node ← look fun doc => doc.find id
  let old := node.get? property
  look fun doc => doc.checkValue id property old value
  exchange id old value
  let node ← look fun doc => doc.find id
  write id { node with settings := Document.withProperty node.settings property value }

def assignAt (id : NodeId) (property : String) (index : Nat) (value : Option Value) :
    SessionM Unit := do
  let node ← look fun doc => doc.find id
  let items ← look fun _ => Document.findList id node property
  if !Document.inBounds items index value then
    throw (.outOfBounds id property index items.length)
  let old := items[index]?
  look fun doc => doc.checkValue id property old value
  exchange id old value
  let node ← look fun doc => doc.find id
  let items ← look fun _ => Document.findList id node property
  let list := Value.list (Document.withElement items index value)
  write id { node with settings := node.settings.insert property list }

def edit (edit : Edit) : SessionM Unit := do
  match edit with
  | .create id concept settings => createNode id concept settings
  | .assign id property value => assign id property value
  | .assignAt id property index value => assignAt id property index value
  note edit.change

def create (id : NodeId) (concept : String) (settings : Settings) : SessionM NodeId := do
  edit (.create id concept settings)
  return id

/-- Forgets the nodes that the root does not lead to, and tells how many they were. Nothing is
noted in the journal. -/
def prune : SessionM Nat := fun session =>
  let doc := session.doc.prune
  .ok (session.doc.size - doc.size) { session with doc }

end SessionM

end RecordForms
