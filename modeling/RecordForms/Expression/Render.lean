import RecordForms.Diagnostic
import RecordForms.Expression.Operators
import RecordForms.Model.Document
import RecordForms.Number.Decimal
import RecordForms.Text.Blank

/-! Expressions as code in infix order. Every node that has no code is replaced by a placeholder
and recorded as a problem, so rendering always gives a text. -/
namespace RecordForms.Expression

/-- The operator in code. A percentage multiplies by a hundredth first. -/
def codeOperator (operator : String) : String :=
  if operator = "of" then "* 0.01 *" else if operator = "^" then "**" else operator

def describe (value : Value) : String :=
  let what := match value with
    | .bool b => if b then "true" else "false"
    | .int n => String.ofList (integerText n.toInt)
    | .float x => x.displayText
    | .text s => s
    | .node id => "object " ++ id
    | .reference _ => "reference"
    | .list items => "sequence of " ++ Nat.repr items.length
  "\"" ++ what ++ "\""

def parenthesized (text : String) : String := "(" ++ text ++ ")"

def number (node : Node) : Generated String :=
  match node.get? Property.value with
  | some (.int n) => pure (String.ofList (integerText n.toInt))
  | some (.float x) =>
    if x.isFinite then pure x.displayText
    else .problem .invalidValue node.id ("number's value " ++ x.displayText ++ " is not finite")
  | some (.text s) =>
    match Decimal.read? (Text.trim s.toList) with
    | some d => pure (String.ofList d.text)
    | none => .problem .invalidValue node.id ("number's value \"" ++ s ++ "\" is not a number")
  | some value =>
    .problem .invalidValue node.id ("number's value " ++ describe value ++ " is not a number")
  | none => .problem .missingValue node.id "number's value is undefined"

def attributeReference (doc : Document) (node : Node) : Generated String :=
  match doc.resolve (((node.get? Property.referenced).bind Value.asReference?).getD none) with
  | .resolved target =>
    match target.codeName? with
    | some name => pure ("this." ++ name)
    | none => .problem .missingValue target.id "referenced attribute has no name"
  | .dangling id =>
    .problem .danglingReference node.id
      ("attribute reference to unknown object \"" ++ id ++ "\"")
  | .absent => .problem .absentReference node.id "attribute reference is undefined"

def operator (node : Node) : Generated String :=
  match node.getText? Property.operator with
  | some operator => pure (codeOperator operator)
  | none => .problem .missingValue node.id "binary operation's operator is undefined"

/-- A power may not have a bare minus sign in front. -/
def guardPower (node : Node) (left : String) : String :=
  if (node.getText? Property.operator).map codeOperator = some "**"
      && left.toList.head? = some '-' then
    parenthesized left
  else left

def operand (render : Value → Generated String) (node : Node) (what property : String) :
    Generated String :=
  match node.get? property with
  | some value => render value
  | none => .problem .missingValue node.id (what ++ "'s " ++ property ++ " is undefined")

def operation (render : Value → Generated String) (node : Node) : Generated String := do
  let left ← operand render node "binary operation" Property.leftOperand
  let operator ← operator node
  let right ← operand render node "binary operation" Property.rightOperand
  return guardPower node left ++ " " ++ operator ++ " " ++ right

def notAnExpression (value : Value) : Generated String :=
  .problem .invalidValue none ("value " ++ describe value ++ " isn't handled as an expression")

/-- Renders a value below the nodes of `path`, the outermost first, with `depth` levels of nodes. -/
def renderWithin (doc : Document) (table : OperatorTable) :
    Nat → Value → List Node → Generated String
  | 0, value, _ => notAnExpression value
  | depth + 1, value, path =>
    match doc.nodeOf? value with
    | none => notAnExpression value
    | some node =>
      let inside := fun value => renderWithin doc table depth value (path ++ [node])
      if node.concept = Concept.attributeReference then attributeReference doc node
      else if node.concept = Concept.number then number node
      else if node.concept = Concept.binaryOperation then do
        let text ← operation inside node
        return if table.needsParentheses node path.getLast? then parenthesized text else text
      else if node.concept = Concept.parentheses then do
        return parenthesized (← operand inside node "parentheses" Property.inner)
      else
        .problem .unhandledConcept node.id
          ("value of concept \"" ++ node.concept ++ "\" isn't handled as an expression")

def renderBelow (doc : Document) (table : OperatorTable) (value : Value) (path : List Node) :
    Generated String :=
  renderWithin doc table doc.size value path

def render (doc : Document) (table : OperatorTable) (value : Value) : Generated String :=
  renderBelow doc table value []

end RecordForms.Expression
