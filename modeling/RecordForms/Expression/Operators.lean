import RecordForms.Model.Node

/-! Precedence and associativity of operators, and where an expression in infix order needs
parentheses. -/
namespace RecordForms

inductive Associativity where
  | left
  | right
deriving DecidableEq

/-- The operand that needs no parentheses at the same precedence. -/
def Associativity.operand : Associativity → String
  | .left => Property.leftOperand
  | .right => Property.rightOperand

/-- Groups of operators from the loosest to the tightest, and the operators whose
associativity is given. -/
structure OperatorTable where
  groups : List (List String)
  associativity : TextMap Associativity
deriving DecidableEq

namespace OperatorTable

def ofGroups (groups : List (List String)) : OperatorTable := ⟨groups, .empty⟩

def withAssociativity (table : OperatorTable) (operator : String) (associativity : Associativity) :
    OperatorTable :=
  { table with associativity := table.associativity.insert operator associativity }

def standard : OperatorTable :=
  (ofGroups [["-", "+"], ["/", "*", "of"], ["^"]]).withAssociativity "^" .right

def precedence? (table : OperatorTable) (operator : String) : Option Nat :=
  table.groups.findIdx? (·.contains operator)

def associativityOf (table : OperatorTable) (operator : String) : Associativity :=
  (table.associativity.get? operator).getD .left

def operatorOf (node : Node) : String := (node.getText? Property.operator).getD ""

/-- Whether an operation needs parentheses as an operand of another. It does when the outer operator
binds tighter, when both bind alike and it is not the operand on the outer operator's side, and
when the table does not know both operators. -/
def needsParenthesesUnder (table : OperatorTable) (node outer : Node) : Bool :=
  match table.precedence? (operatorOf node), table.precedence? (operatorOf outer) with
  | some rank, some outerRank =>
    rank < outerRank || rank == outerRank
      && !outer.ownsAt (table.associativityOf (operatorOf outer)).operand node.id
  | _, _ => true

def needsParentheses (table : OperatorTable) (node : Node) (parent : Option Node) : Bool :=
  match parent with
  | some outer =>
    outer.isA Concept.binaryOperation && node.isA Concept.binaryOperation
      && table.needsParenthesesUnder node outer
  | none => false

end OperatorTable

end RecordForms
