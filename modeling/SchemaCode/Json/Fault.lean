import SchemaCode.Decimal.Shortest
import SchemaCode.Json.Value
import SchemaCode.Text.Quoted

/-! What can be wrong with a text, and where. Columns count bytes of the text's UTF-8 form. -/

namespace SchemaCode.Json

inductive Found where
  | scalar (s : Scalar)
  | array
  | object

inductive Cause where
  | endInValue
  | endInString
  | endInList
  | endInObject
  | unknownWord
  | noValue
  | noColon
  | noListSeparator
  | noObjectSeparator
  | keyNotString
  | trailingComma
  | trailingCharacters
  | tooDeep
  | badNumber
  | numberOutOfRange
  | controlCharacter
  | badEscape
  | loneSurrogate
  | brokenSurrogatePair
  | wrongType (found : Found) (expected : String)
  | duplicateField (name : String)

/-- A fault with `left` bytes of the text to come. -/
structure Fault where
  cause : Cause
  left : Nat

def size (cs : List Char) : Nat := cs.foldl (fun n c => n + c.utf8Size) 0

namespace Fault

def here (cause : Cause) (rest : List Char) : Fault := ⟨cause, size rest⟩

def next (cause : Cause) (rest : List Char) : Fault := ⟨cause, size rest - 1⟩

end Fault

structure Position where
  line : Nat
  column : Nat

def Position.behind (bytes : List UInt8) : Position :=
  bytes.foldl (fun p b => if b == 10 then ⟨p.line + 1, 0⟩ else ⟨p.line, p.column + 1⟩) ⟨1, 0⟩

def numberLayout : Decimal.Layout := ⟨-5, 15⟩

def Scalar.describe : Scalar → String
  | .null => "null"
  | .bool b => "boolean `" ++ (if b then "true" else "false") ++ "`"
  | .number (.integer n) => "integer `" ++ toString n ++ "`"
  | .number (.float x) => "floating point `" ++ numberLayout.float x ++ "`"
  | .string s => "string " ++ Text.quoted s

def Found.describe : Found → String
  | .scalar s => s.describe
  | .array => "sequence"
  | .object => "map"

def Cause.message : Cause → String
  | .endInValue => "EOF while parsing a value"
  | .endInString => "EOF while parsing a string"
  | .endInList => "EOF while parsing a list"
  | .endInObject => "EOF while parsing an object"
  | .unknownWord => "expected ident"
  | .noValue => "expected value"
  | .noColon => "expected `:`"
  | .noListSeparator => "expected `,` or `]`"
  | .noObjectSeparator => "expected `,` or `\x7d`"
  | .keyNotString => "key must be a string"
  | .trailingComma => "trailing comma"
  | .trailingCharacters => "trailing characters"
  | .tooDeep => "recursion limit exceeded"
  | .badNumber => "invalid number"
  | .numberOutOfRange => "number out of range"
  | .controlCharacter => "control character (\\u0000-\\u001F) found while parsing a string"
  | .badEscape => "invalid escape"
  | .loneSurrogate => "lone leading surrogate in hex escape"
  | .brokenSurrogatePair => "unexpected end of hex escape"
  | .wrongType found expected => "invalid type: " ++ found.describe ++ ", expected " ++ expected
  | .duplicateField name => "duplicate field `" ++ name ++ "`"

def Fault.position (f : Fault) (text : String) : Position :=
  let bytes := text.toUTF8.toList
  Position.behind (bytes.take (bytes.length - f.left))

def Fault.message (f : Fault) (text : String) : String :=
  let p := f.position text
  f.cause.message ++ " at line " ++ toString p.line ++ " column " ++ toString p.column

end SchemaCode.Json
