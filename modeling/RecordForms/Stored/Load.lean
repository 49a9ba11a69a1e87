import RecordForms.Model.Document
import RecordForms.Stored.Reading

/-! Loading a document. Every node that is stored becomes a node of the document, children before
their parent; a decorator sees each of them once and may change it. -/
namespace RecordForms

inductive LoadError where
  | unreadable (cause : Stored.ReadError)
  | rootNotANode
  | duplicateId (id : NodeId)
deriving DecidableEq

def LoadError.message : LoadError → String
  | .unreadable cause => "invalid document: " ++ cause.message
  | .rootNotANode => "the document root is not an AST object"
  | .duplicateId id => "duplicate object id: " ++ id

/-- Sees a finished node, and may change it and what it remembers. -/
abbrev Decorator (σ : Type) := Node → StateM σ Node

structure Loading (σ : Type) where
  nodes : TextMap Node
  memory : σ

/-- A step of loading. A step that fails keeps what was done before it. -/
abbrev LoadM (σ : Type) := EStateM LoadError (Loading σ)

namespace LoadM

variable {σ : Type}

def checkNew (id : NodeId) : LoadM σ Unit := fun loading =>
  if loading.nodes.contains id then .error (.duplicateId id) loading else .ok () loading

/-- Decorates a node and adds it under its id, unless a node below it has the same id. -/
def finish (decorate : Decorator σ) (id concept : String) (settings : Settings) :
    LoadM σ NodeId := fun loading =>
  let decorated := (decorate ⟨id, concept, settings⟩).run loading.memory
  if loading.nodes.contains id then .error (.duplicateId id) ⟨loading.nodes, decorated.2⟩
  else .ok id ⟨loading.nodes.insert id decorated.1, decorated.2⟩

theorem contains_of_finish {decorate : Decorator σ} {id concept : String} {settings : Settings}
    {before after : Loading σ} {result : NodeId}
    (h : finish decorate id concept settings before = .ok result after) :
    after.nodes.contains id = true := by
  unfold finish at h
  dsimp only at h
  split at h
  · simp at h
  · obtain ⟨-, rfl⟩ := EStateM.Result.ok.inj h
    simp

end LoadM

mutual

def Stored.build {σ : Type} (decorate : Decorator σ) : Stored → LoadM σ Value
  | .node id concept settings => do
    LoadM.checkNew id
    let entries ← Stored.buildSettings decorate settings
    return .node (← LoadM.finish decorate id concept (.ofList entries))
  | .reference target => return .reference target
  | .list items => return .list (← Stored.buildItems decorate items)
  | .bool b => return .bool b
  | .int n => return .int n
  | .float x => return .float x
  | .text s => return .text s

def Stored.buildItems {σ : Type} (decorate : Decorator σ) : List Stored → LoadM σ (List Value)
  | [] => return []
  | item :: items => do
    let value ← item.build decorate
    return value :: (← Stored.buildItems decorate items)

def Stored.buildSettings {σ : Type} (decorate : Decorator σ) :
    List (String × Stored) → LoadM σ (List (String × Value))
  | [] => return []
  | (property, item) :: settings => do
    let value ← item.build decorate
    return (property, value) :: (← Stored.buildSettings decorate settings)

end

theorem Stored.contains_of_build {σ : Type} {decorate : Decorator σ} {id concept : String}
    {settings : List (String × Stored)} {before after : Loading σ} {value : Value}
    (h : (Stored.node id concept settings).build decorate before = .ok value after) :
    after.nodes.contains id = true := by
  simp only [Stored.build, bind, EStateM.bind, pure, EStateM.pure] at h
  split at h
  · split at h
    · split at h
      next hfinish =>
        obtain ⟨-, rfl⟩ := EStateM.Result.ok.inj h
        exact LoadM.contains_of_finish hfinish
      next => simp at h
    · simp at h
  · simp at h

namespace Document

def loadWith {σ : Type} (decorate : Decorator σ) (memory : σ) :
    Stored → Except LoadError Document × σ
  | .node root concept settings =>
    match h : (Stored.node root concept settings).build decorate ⟨.empty, memory⟩ with
    | .ok _ loading =>
      (.ok (.ofNodes root loading.nodes (Stored.contains_of_build h)), loading.memory)
    | .error cause loading => (.error cause, loading.memory)
  | _ => (.error .rootNotANode, memory)

def load (stored : Stored) : Except LoadError Document :=
  (loadWith (fun node => return node) () stored).1

def ofText (text : String) : Except LoadError Document :=
  match Stored.read text with
  | .ok stored => load stored
  | .error cause => .error (.unreadable cause)

end Document

end RecordForms
