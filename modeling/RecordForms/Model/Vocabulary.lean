/-! The concepts and properties that have a meaning for code generation. A document may hold
nodes of any other concept, and any other property. -/
namespace RecordForms

namespace Concept

def recordType : String := "Record Type"
def attributeReference : String := "Attribute Reference"
def binaryOperation : String := "Binary Operation"
def number : String := "Number"
def parentheses : String := "Parentheses"

end Concept

namespace Property

def name : String := "name"
def attributes : String := "attributes"
def type : String := "type"
def initialValue : String := "initial value"
def value : String := "value"
/-- Of an attribute reference: the attribute it stands for. -/
def referenced : String := "attribute"
def operator : String := "operator"
def leftOperand : String := "left operand"
def rightOperand : String := "right operand"
def inner : String := "sub"

end Property

end RecordForms
