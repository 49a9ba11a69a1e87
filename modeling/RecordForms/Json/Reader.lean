import RecordForms.Json.Token

/-! Reading a JSON value from its tokens. The reader keeps the containers that are still open on a
stack and takes one token at a time, so reading is recursion on the list of tokens. -/
namespace RecordForms.Json

/-- An open container, with what stands before the value in it; the last comes first. -/
inductive Frame where
  | list (items : List Json)
  | object (members : List (String × Json)) (key : String)

inductive State where
  | value (stack : List Frame)
  /-- In a list, before an item. Only behind the bracket may the list end here. -/
  | item (first : Bool) (items : List Json) (outer : List Frame)
  /-- In an object, before a key. Only behind the brace may the object end here. -/
  | key (first : Bool) (members : List (String × Json)) (outer : List Frame)
  | colon (members : List (String × Json)) (key : String) (outer : List Frame)
  | done (value : Json) (stack : List Frame)

def depthLimit : Nat := 127

def Lexeme.fault (lexeme : Lexeme) (reason : Reason) : Fault := .behind reason lexeme.source

def Lexeme.isString (lexeme : Lexeme) : Bool := lexeme.source.head? == some '"'

def startValue (stack : List Frame) (lexeme : Lexeme) : Except Fault State :=
  match lexeme.token with
  | .openList =>
    if stack.length < depthLimit then .ok (.item true [] stack)
    else .error (lexeme.fault .tooDeep)
  | .openObject =>
    if stack.length < depthLimit then .ok (.key true [] stack)
    else .error (lexeme.fault .tooDeep)
  | .scalar value => .ok (.done value stack)
  | .string text => .ok (.done (.string text) stack)
  | .malformed fault => .error fault
  | .endOfText => .error (lexeme.fault .endInValue)
  | _ => .error (lexeme.fault .noValue)

def afterValue (value : Json) : List Frame → Lexeme → Except Fault State
  | [], lexeme => .error (lexeme.fault .trailingText)
  | .list items :: outer, lexeme =>
    match lexeme.token with
    | .comma => .ok (.item false (value :: items) outer)
    | .closeList => .ok (.done (.list (value :: items).reverse) outer)
    | .endOfText => .error (lexeme.fault .endInList)
    | _ => .error (lexeme.fault .noListSeparator)
  | .object members key :: outer, lexeme =>
    match lexeme.token with
    | .comma => .ok (.key false ((key, value) :: members) outer)
    | .closeObject => .ok (.done (.object ((key, value) :: members).reverse) outer)
    | .endOfText => .error (lexeme.fault .endInObject)
    | _ => .error (lexeme.fault .noObjectSeparator)

def step (state : State) (lexeme : Lexeme) : Except Fault State :=
  match state with
  | .value stack => startValue stack lexeme
  | .item first items outer =>
    match lexeme.token with
    | .closeList =>
      if first then .ok (.done (.list []) outer) else .error (lexeme.fault .trailingComma)
    | .endOfText => .error (lexeme.fault (if first then .endInList else .endInValue))
    | _ => startValue (.list items :: outer) lexeme
  | .key first members outer =>
    match lexeme.token with
    | .string key => .ok (.colon members key outer)
    | .closeObject =>
      if first then .ok (.done (.object []) outer) else .error (lexeme.fault .trailingComma)
    | .endOfText => .error (lexeme.fault (if first then .endInObject else .endInValue))
    | .malformed fault => .error (if lexeme.isString then fault else lexeme.fault .noKey)
    | _ => .error (lexeme.fault .noKey)
  | .colon members key outer =>
    match lexeme.token with
    | .colon => .ok (.value (.object members key :: outer))
    | .endOfText => .error (lexeme.fault .endInObject)
    | _ => .error (lexeme.fault .noColon)
  | .done value stack => afterValue value stack lexeme

def run : State → List Lexeme → Except Fault (Json × List Lexeme)
  | .done value [], rest => .ok (value, rest)
  | _, [] => .error (.before .endInValue [])
  | state, lexeme :: rest =>
    match step state lexeme with
    | .ok next => run next rest
    | .error fault => .error fault

/-- The value that a text begins with, and what is wrong behind it. -/
structure Beginning where
  value : Json
  trailing : Option Fault

def trailingFault? : List Lexeme → Option Fault
  | [] => none
  | lexeme :: _ =>
    match lexeme.token with
    | .endOfText => none
    | _ => some (lexeme.fault .trailingText)

def beginning (text : String) : Except Fault Beginning :=
  match run (.value []) (lexemes text.toList) with
  | .ok (value, rest) => .ok ⟨value, trailingFault? rest⟩
  | .error fault => .error fault

def read (text : String) : Except Fault Json :=
  match beginning text with
  | .ok ⟨value, none⟩ => .ok value
  | .ok ⟨_, some fault⟩ => .error fault
  | .error fault => .error fault

end RecordForms.Json
