/-! What can be wrong with a JSON text, and where. A fault is placed by the number of bytes
that follow it, which is known without counting what has been read. -/
namespace RecordForms.Json

inductive Reason where
  | endInValue
  | endInList
  | endInObject
  | endInString
  | noValue
  | noWord
  | badNumber
  | outOfRange
  | controlCharacter
  | badEscape
  | loneSurrogate
  | endOfSurrogates
  | noListSeparator
  | noObjectSeparator
  | noColon
  | trailingComma
  | noKey
  | tooDeep
  | trailingText
deriving DecidableEq

def Reason.message : Reason → String
  | .endInValue => "EOF while parsing a value"
  | .endInList => "EOF while parsing a list"
  | .endInObject => "EOF while parsing an object"
  | .endInString => "EOF while parsing a string"
  | .noValue => "expected value"
  | .noWord => "expected ident"
  | .badNumber => "invalid number"
  | .outOfRange => "number out of range"
  | .controlCharacter => "control character (\\u0000-\\u001F) found while parsing a string"
  | .badEscape => "invalid escape"
  | .loneSurrogate => "lone leading surrogate in hex escape"
  | .endOfSurrogates => "unexpected end of hex escape"
  | .noListSeparator => "expected `,` or `]`"
  | .noObjectSeparator => "expected `,` or `\x7d`"
  | .noColon => "expected `:`"
  | .trailingComma => "trailing comma"
  | .noKey => "key must be a string"
  | .tooDeep => "recursion limit exceeded"
  | .trailingText => "trailing characters"

/-- A reason and the number of bytes of the text behind the fault. -/
structure Fault where
  reason : Reason
  bytesLeft : Nat
deriving DecidableEq

def byteSize (cs : List Char) : Nat := cs.foldr (fun c size => c.utf8Size + size) 0

def Fault.before (reason : Reason) (rest : List Char) : Fault := ⟨reason, byteSize rest⟩

def Fault.behind (reason : Reason) (rest : List Char) : Fault := ⟨reason, byteSize rest - 1⟩

/-- Lines count from one, columns are the bytes since the last line end. -/
structure Position where
  line : Nat
  column : Nat
deriving DecidableEq

def Position.ofBytes (read : List UInt8) : Position where
  line := 1 + read.count 10
  column := (read.reverse.takeWhile (· != 10)).length

def Fault.position (fault : Fault) (text : String) : Position :=
  let bytes := text.toUTF8.toList
  .ofBytes (bytes.take (bytes.length - fault.bytesLeft))

end RecordForms.Json
