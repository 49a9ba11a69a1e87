import RecordForms.Arrangement
import RecordForms.Expression.Render
import RecordForms.Fragment
import RecordForms.Model.Tree

/-! The code of a record: a class with one field or getter for each attribute, and a form with one
input for each. An attribute that others read comes before them in the class; the form keeps the
order of the record. -/
namespace RecordForms

structure Options where
  indentWidth : UInt64 := Fragment.defaultWidth
  operators : OperatorTable := .standard
  policy : Policy := .warn

namespace RecordModule

/-- A node with its name in code, which is a placeholder if it has none. -/
structure Named where
  node : Node
  name : String

def nameOf (what : String) (node : Node) : Generated String :=
  match node.codeName? with
  | some name => pure name
  | none => .problem .missingValue node.id (what ++ "'s name is undefined")

/-- The attributes among the elements of a list. Each other element is a problem of the record. -/
def attributesAmong (doc : Document) (record : Node) : List Value → Generated (List Node)
  | [] => pure []
  | item :: items =>
    match doc.nodeOf? item with
    | some node => do return node :: (← attributesAmong doc record items)
    | none => do
      let _ ← Generated.problem .invalidValue record.id
        "record type has an attribute that is not an AST object"
      attributesAmong doc record items

def attributesOf (doc : Document) (record : Node) : Generated (List Node) :=
  attributesAmong doc record
    (((record.get? Property.attributes).bind Value.asList?).getD [])

def named (node : Node) : Generated Named := do return ⟨node, ← nameOf "attribute" node⟩

def initialDefault (node : Node) : Generated String :=
  match node.getText? Property.type with
  | some "amount" => pure "0.0"
  | some "percentage" => pure "0"
  | some "date range" => pure "new DateRange()"
  | some "period in days" => pure "new Period()"
  | some other =>
    .problem .unhandledType node.id ("type \"" ++ other ++ "\" has no default initial value")
  | none => .problem .missingValue node.id "attribute's type is undefined"

def classField (doc : Document) (table : OperatorTable) (field : Named) : Generated Fragment :=
  match field.node.get? Property.value with
  | some (.node id) => do
    let body ← Expression.render doc table (.node id)
    return .sequence [
      .line ("get " ++ field.name ++ "() \x7b"),
      .indented 1 (.line ("return " ++ body)),
      .line "\x7d"]
  | _ => do
    let start ← match field.node.get? Property.initialValue with
      | some (.node id) => Expression.render doc table (.node id)
      | _ => initialDefault field.node
    return .line (field.name ++ " = " ++ start)

def arrangement (doc : Document) (ids : List NodeId) : Arrangement NodeId :=
  .of ids fun id => (doc.get? id).elim [] doc.reads

def writtenName (node : Node) : String :=
  "\"" ++ (node.getText? Property.name).getD "?" ++ "\""

def cycleReport (doc : Document) (record : Node) :
    Arrangement NodeId → Generated (List Fragment)
  | .ordered _ => pure []
  | .stuck left => do
    let names := String.intercalate ", " ((left.filterMap doc.get?).map writtenName)
    let report ← Generated.problem .cyclicDependency record.id
      ("attributes " ++ names ++ " depend on each other cyclically")
    return [.line report]

/-- The fields of the class, in the order found or else the order of the record. -/
def classFields (doc : Document) (table : OperatorTable) (record : Node) (fields : List Named) :
    Generated (List Fragment) := do
  let ids := fields.map (·.node.id)
  let order := arrangement doc ids
  let report ← cycleReport doc record order
  let sorted := (order.orGiven ids).filterMap fun id => fields.find? (·.node.id == id)
  return report ++ (← Generated.forEach (classField doc table) sorted)

def input (type object field : String) : String :=
  "<Input type=\"" ++ type ++ "\" object=\x7b" ++ object ++ "\x7d fieldName=\"" ++ field ++ "\" />"

def formInputs (object : String) (field : Named) : Generated Fragment :=
  let place := object ++ "." ++ field.name
  let computed := Document.isComputed field.node
  match field.node.getText? Property.type with
  | some "amount" =>
    pure (.line ("$ " ++ if computed then "\x7b" ++ place ++ ".toFixed(2)\x7d"
      else input "number" object field.name))
  | some "percentage" =>
    pure (.line ((if computed then "\x7b" ++ place ++ "\x7d"
      else input "number" object field.name) ++ " %"))
  | some "date range" | some "period in days" =>
    pure (.ofLines [input "date" place "from", input "date" place "to"])
  | some other => do
    return .line (← .problem .unhandledType field.node.id
      ("type \"" ++ other ++ "\" has no form input"))
  | none => do
    return .line (← .problem .missingValue field.node.id "attribute's type is undefined")

def label (field : Named) : String :=
  match field.node.getText? Property.name with
  | some name => if name.isEmpty then field.name else Text.capitalized name
  | none => field.name

def formField (object : String) (field : Named) : Generated Fragment := do
  let inputs ← formInputs object field
  return .sequence [
    .line ("<FormField label=\"" ++ label field ++ "\">"),
    .indented 1 inputs,
    .line "</FormField>"]

def conceptReport (record : Node) : Generated (List Fragment) :=
  if record.isA Concept.recordType then pure []
  else do
    let report ← Generated.problem .unhandledConcept record.id
      ("value of concept \"" ++ record.concept ++ "\" isn't a record type")
    return [.line report]

def imports : List String := [
  "import React from \"react\"",
  "import \x7b createRoot \x7d from \"react-dom/client\"",
  "import \x7b makeAutoObservable \x7d from \"mobx\"",
  "import \x7b observer \x7d from \"mobx-react\"",
  "",
  "import \x7b FormField, Input \x7d from \"./components\"",
  "import \x7b DateRange, Period \x7d from \"./dates\"",
  ""]

def layout (name : String) (preamble fields inputs : List Fragment) : Fragment :=
  let className := Text.capitalized name
  .sequence [
    .sequence preamble,
    .ofLines imports,
    .line ("class " ++ className ++ " \x7b"),
    .indented 1 (.sequence fields),
    .indented 1 (.sequence [
      .line "constructor() \x7b",
      .indented 1 (.line "makeAutoObservable(this)"),
      .line "\x7d"]),
    .ofLines [
      "\x7d",
      "",
      "const " ++ className ++ "Form = observer((\x7b " ++ name ++ " \x7d) => <form>"],
    .indented 1 (.sequence inputs),
    .ofLines [
      "</form>)",
      "",
      "const " ++ name ++ " = new " ++ className ++ "()",
      "",
      "createRoot(document.getElementById(\"root\"))"],
    .indented 1 (.sequence [
      .line ".render(",
      .indented 1 (.line ("<" ++ className ++ "Form " ++ name ++ "=\x7b" ++ name ++ "\x7d />")),
      .line ")"]),
    .line ""]

def fragment (doc : Document) (table : OperatorTable) (record : Node) : Generated Fragment := do
  let preamble ← conceptReport record
  let name ← nameOf "record" record
  let attributes ← attributesOf doc record
  let fields ← Generated.forEach named attributes
  let body ← classFields doc table record fields
  let inputs ← Generated.forEach (formField name) fields
  return layout name preamble body inputs

end RecordModule

def generateRecord (doc : Document) (record : Node) (options : Options) : Generated String := do
  return (← RecordModule.fragment doc options.operators record).print options.indentWidth

def generate (doc : Document) (options : Options) : Generated String :=
  generateRecord doc doc.rootNode options

end RecordForms
