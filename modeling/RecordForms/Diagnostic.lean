/-! Problems met while code is generated. Generation does not stop at a problem: it is recorded,
and a comment stands in the code where text is missing. -/
namespace RecordForms

inductive DiagnosticKind where
  | danglingReference
  | absentReference
  | missingValue
  | invalidValue
  | unhandledConcept
  | unhandledType
  | cyclicDependency
deriving DecidableEq

def DiagnosticKind.name : DiagnosticKind → String
  | .danglingReference => "DanglingReference"
  | .absentReference => "AbsentReference"
  | .missingValue => "MissingValue"
  | .invalidValue => "InvalidValue"
  | .unhandledConcept => "UnhandledConcept"
  | .unhandledType => "UnhandledType"
  | .cyclicDependency => "CyclicDependency"

/-- A problem, and the id of the node that has it if there is one. -/
structure Diagnostic where
  kind : DiagnosticKind
  node : Option String
  message : String
deriving DecidableEq

namespace Diagnostic

def placeholder (diagnostic : Diagnostic) : String :=
  "/* [GENERATION PROBLEM] " ++ diagnostic.message ++ " */"

def display (diagnostic : Diagnostic) : String :=
  match diagnostic.node with
  | some node => diagnostic.kind.name ++ " at " ++ node ++ ": " ++ diagnostic.message
  | none => diagnostic.kind.name ++ ": " ++ diagnostic.message

end Diagnostic

/-- What generation gives: an output and the problems met, in the order they were met. -/
structure Generated (α : Type) where
  output : α
  diagnostics : List Diagnostic

namespace Generated

instance : Monad Generated where
  pure a := ⟨a, []⟩
  bind g f := ⟨(f g.output).output, g.diagnostics ++ (f g.output).diagnostics⟩

@[simp] theorem output_pure {α : Type} (a : α) : (pure a : Generated α).output = a := rfl

@[simp] theorem diagnostics_pure {α : Type} (a : α) :
    (pure a : Generated α).diagnostics = [] := rfl

@[simp] theorem output_bind {α β : Type} (g : Generated α) (f : α → Generated β) :
    (g >>= f).output = (f g.output).output := rfl

@[simp] theorem diagnostics_bind {α β : Type} (g : Generated α) (f : α → Generated β) :
    (g >>= f).diagnostics = g.diagnostics ++ (f g.output).diagnostics := rfl

@[simp] theorem output_map {α β : Type} (f : α → β) (g : Generated α) :
    (f <$> g).output = f g.output := rfl

@[simp] theorem diagnostics_map {α β : Type} (f : α → β) (g : Generated α) :
    (f <$> g).diagnostics = g.diagnostics := List.append_nil _

@[ext] theorem ext {α : Type} {g h : Generated α} (output : g.output = h.output)
    (diagnostics : g.diagnostics = h.diagnostics) : g = h := by
  cases g
  cases h
  simp_all

instance : LawfulMonad Generated := LawfulMonad.mk' Generated
  (by intro α g; exact ext rfl (List.append_nil _))
  (by intro α β a f; exact ext rfl rfl)
  (by intro α β γ g f k; exact ext rfl (List.append_assoc _ _ _))

def isClean {α : Type} (g : Generated α) : Bool := g.diagnostics.isEmpty

def problem (kind : DiagnosticKind) (node : Option String) (message : String) :
    Generated String :=
  let diagnostic : Diagnostic := ⟨kind, node, message⟩
  ⟨diagnostic.placeholder, [diagnostic]⟩

def forEach {α β : Type} (f : α → Generated β) : List α → Generated (List β)
  | [] => pure []
  | a :: as => do return (← f a) :: (← forEach f as)

@[simp] theorem output_forEach {α β : Type} (f : α → Generated β) (as : List α) :
    (forEach f as).output = as.map fun a => (f a).output := by
  induction as with
  | nil => rfl
  | cons a as ih => simp only [forEach, output_bind, output_pure, ih, List.map_cons]

@[simp] theorem diagnostics_forEach {α β : Type} (f : α → Generated β) (as : List α) :
    (forEach f as).diagnostics = as.flatMap fun a => (f a).diagnostics := by
  induction as with
  | nil => rfl
  | cons a as ih =>
    simp only [forEach, diagnostics_bind, diagnostics_pure, ih, List.append_nil,
      List.flatMap_cons]

end Generated

inductive Policy where
  | warn
  | deny

def Generated.accepted {α : Type} (policy : Policy) (g : Generated α) :
    Except (List Diagnostic) α :=
  match policy with
  | .warn => .ok g.output
  | .deny => if g.isClean then .ok g.output else .error g.diagnostics

def deniedMessage (diagnostics : List Diagnostic) : String :=
  "generation produced " ++ Nat.repr diagnostics.length ++ " problem(s)"

end RecordForms
