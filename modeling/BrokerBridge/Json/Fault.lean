import BrokerBridge.Number.Decimal
import BrokerBridge.Text.Quoted
import BrokerBridge.Text.Utf8

/-!
# Why a JSON text is refused

A reader of JSON stops at the first fault.  It knows a fault by its `Cause` and by the number of
bytes that were still unread, and needs to know nothing about the bytes before.  `Fault.place`
turns the count of unread bytes into a line and a column of the whole text, and
`ReadError.message` writes the result.

Two places occur.  A fault stands *at* a byte when that byte was seen and left unread
(`Fault.ahead`), and *after* what was read when it was consumed (`Fault.behind`).
-/
namespace BrokerBridge.Json

/-! ## 1. Causes -/

/-- What stands in a text where something else was wanted. -/
inductive Found where
  | null
  | boolean (b : Bool)
  | integer (i : Int)
  | float (x : Binary64)
  | number
  | text (s : String)
  | sequence
  | mapping
  deriving DecidableEq, Repr

/-- What was found, in words. -/
def Found.describe : Found → String
  | .null => "null"
  | .boolean b => "boolean `" ++ (if b then "true" else "false") ++ "`"
  | .integer i => "integer `" ++ toString i ++ "`"
  | .float x => "floating point `" ++ x.compactText ++ "`"
  | .number => "number"
  | .text s => "string " ++ Text.quoted s
  | .sequence => "sequence"
  | .mapping => "map"

/-- Why a text is refused. -/
inductive Cause where
  | unfinishedValue
  | unfinishedString
  | unfinishedArray
  | unfinishedObject
  | expectedColon
  | expectedCommaOrBracket
  | expectedCommaOrBrace
  | expectedWord
  | expectedValue
  | invalidEscape
  | invalidNumber
  | numberOutOfRange
  | invalidCodePoint
  | controlCharacter
  | keyNotString
  | loneSurrogate
  | trailingComma
  | trailingCharacters
  | unfinishedSurrogatePair
  | tooDeep
  | wrongType (found : Found) (expected : String)
  | wrongValue (found : Found) (expected : String)
  | wrongLength (length : Nat) (expected : String)
  | missingField (name : String)
  | duplicateField (name : String)
  deriving DecidableEq, Repr

/-- A cause in words. -/
def Cause.message : Cause → String
  | .unfinishedValue => "EOF while parsing a value"
  | .unfinishedString => "EOF while parsing a string"
  | .unfinishedArray => "EOF while parsing a list"
  | .unfinishedObject => "EOF while parsing an object"
  | .expectedColon => "expected `:`"
  | .expectedCommaOrBracket => "expected `,` or `]`"
  | .expectedCommaOrBrace => "expected `,` or `\x7d`"
  | .expectedWord => "expected ident"
  | .expectedValue => "expected value"
  | .invalidEscape => "invalid escape"
  | .invalidNumber => "invalid number"
  | .numberOutOfRange => "number out of range"
  | .invalidCodePoint => "invalid unicode code point"
  | .controlCharacter =>
    "control character (\\u0000-\\u001F) found while parsing a string"
  | .keyNotString => "key must be a string"
  | .loneSurrogate => "lone leading surrogate in hex escape"
  | .trailingComma => "trailing comma"
  | .trailingCharacters => "trailing characters"
  | .unfinishedSurrogatePair => "unexpected end of hex escape"
  | .tooDeep => "recursion limit exceeded"
  | .wrongType found expected => "invalid type: " ++ found.describe ++ ", expected " ++ expected
  | .wrongValue found expected => "invalid value: " ++ found.describe ++ ", expected " ++ expected
  | .wrongLength n expected => "invalid length " ++ toString n ++ ", expected " ++ expected
  | .missingField name => "missing field `" ++ name ++ "`"
  | .duplicateField name => "duplicate field `" ++ name ++ "`"

/-! ## 2. Places -/

/-- A refusal, with the line of its place, from 1, and the number of bytes before it in the
line. -/
structure ReadError where
  cause : Cause
  line : Nat
  column : Nat
  deriving DecidableEq, Repr

/-- A refusal in words. -/
def ReadError.message (e : ReadError) : String :=
  e.cause.message ++ " at line " ++ toString e.line ++ " column " ++ toString e.column

/-- A refusal as a reader meets it.  The text of a number inside a string is a text of its own,
and a refusal of it keeps its place there. -/
inductive Fault where
  /-- After all that was read. -/
  | read (cause : Cause) (unread : Nat)
  /-- At the first unread byte. -/
  | met (cause : Cause) (unread : Nat)
  | inside (error : ReadError)
  deriving DecidableEq, Repr

/-- A fault after all that was read; `rest` is unread. -/
def Fault.behind (cause : Cause) (rest : Bytes) : Fault := .read cause rest.length

/-- A fault at the first byte of `rest`, which was only looked at. -/
def Fault.ahead (cause : Cause) (rest : Bytes) : Fault := .met cause rest.length

/-- The line feed. -/
def lineFeed : UInt8 := 0x0A

/-- The line and column of the place after some bytes. -/
def placeAfter (bytes : Bytes) : Nat × Nat :=
  (1 + bytes.count lineFeed, (bytes.reverse.takeWhile (· != lineFeed)).length)

/-- The refusal for `cause` after the first `count` bytes of a text. -/
def ReadError.ofCount (cause : Cause) (text : Bytes) (count : Nat) : ReadError :=
  let (line, column) := placeAfter (text.take count)
  ⟨cause, line, column⟩

/-- The refusal of a whole text. -/
def Fault.place (text : Bytes) : Fault → ReadError
  | .inside e => e
  | .read cause unread => .ofCount cause text (text.length - unread)
  | .met cause unread => .ofCount cause text (text.length - unread + 1)

/-- The reader of a part of a text: the value, and what is left unread. -/
abbrev Reader (α : Type) := Bytes → Except Fault (α × Bytes)

end BrokerBridge.Json
