import BrokerBridge.Assoc
import BrokerBridge.Json.Number
import BrokerBridge.Json.Text

/-!
# JSON values

A value is read from bytes by `Value.decode` and written by `Value.chars`.  An object keeps its
members in the order in which their keys first came, each with its latest value.

Two rules of the reader go beyond the grammar.  No more than `depthLimit` containers may be open
at a time.  And an object with a `Wrapper` key in front stands for the value that is written in a
string: it must have that one member.  `numberKey` wraps a number, `textKey` any JSON text, which
is a text of its own with a depth of its own.  The object that is a whole message is never read as
a wrapper (`Members.decode`).
-/
namespace BrokerBridge.Json

/-- A JSON value. -/
inductive Value where
  | null
  | boolean (b : Bool)
  | number (n : Number)
  | text (s : String)
  | array (items : List Value)
  | object (members : List (String × Value))
  deriving Repr

/-- The members of an object: an ordered map. -/
abbrev Members := Assoc Value

/-! ## 1. Writing -/

mutual

/-- The characters of a value, with no white space outside of strings. -/
def Value.chars : Value → List Char
  | .null => ['n', 'u', 'l', 'l']
  | .boolean b => if b then ['t', 'r', 'u', 'e'] else ['f', 'a', 'l', 's', 'e']
  | .number n => n.chars
  | .text s => textChars s
  | .array items => '[' :: itemChars items ++ [']']
  | .object members => '{' :: memberChars members ++ ['}']

/-- The characters of items, with commas between them. -/
def itemChars : List Value → List Char
  | [] => []
  | v :: rest => v.chars ++ (if rest.isEmpty then [] else [',']) ++ itemChars rest

/-- The characters of members, with commas between them. -/
def memberChars : List (String × Value) → List Char
  | [] => []
  | (key, v) :: rest =>
    textChars key ++ ':' :: v.chars ++ (if rest.isEmpty then [] else [',']) ++ memberChars rest

end

/-- The text of a value. -/
def Value.toText (v : Value) : String := String.ofList v.chars

/-- The bytes of an object. -/
def Members.encode (members : Members) : Bytes := Utf8.encode (Value.object members).chars

/-! ## 2. Values in strings -/

/-- The key before a string that holds a number. -/
def numberKey : String := "$serde_json::private::Number"

/-- The key before a string that holds any JSON text. -/
def textKey : String := "$serde_json::private::RawValue"

/-- What a string inside an object holds, where the object stands for it. -/
inductive Wrapper where
  | number
  | text
  deriving DecidableEq, Repr

/-- What a key makes of its object. -/
def Wrapper.ofKey? (key : String) : Option Wrapper :=
  if key = numberKey then some .number
  else if key = textKey then some .text
  else none

/-- What must stand after a wrapper's key. -/
def Wrapper.expectation : Wrapper → String
  | .number => "string containing a number"
  | .text => "raw value"

/-- The fault of a value of the wrong type, for which `expected` was wanted.  A word, a number and
a string are read to be named; of a container only the opening mark is looked at. -/
def wrongType (expected : String) : Bytes → Fault
  | [] => .ahead .expectedValue []
  | b :: rest =>
    let fault (found : Found) (left : Bytes) : Fault := .behind (.wrongType found expected) left
    match mark b with
    | .quote =>
      match readText rest with
      | .ok (s, after) => fault (.text s) after
      | .error f => f
    | .minus | .digit =>
      match Number.read (b :: rest) with
      | .ok (n, after) => fault (numberFound n) after
      | .error f => f
    | .openBracket => fault .sequence (b :: rest)
    | .openBrace => fault .mapping (b :: rest)
    | _ =>
      match Word.ofFirst? b with
      | none => .ahead .expectedValue (b :: rest)
      | some (word, tail) =>
        match readWord tail rest with
        | .error f => f
        | .ok after =>
          match word with
          | .null => fault .null after
          | .boolean w => fault (.boolean w) after
where
  /-- How a number is named: by its value when it is an integer of 64 bits. -/
  numberFound (n : Number) : Found :=
    match n.integer? with
    | some i =>
      if n.negative then (if isInteger64 i ∧ i ≠ 0 then .integer i else .number)
      else if isWord64 i then .integer i else .number
    | none => .number

/-- Reads the end of an object after its only member. -/
def readLoneEnd (bytes : Bytes) : Except Fault Bytes :=
  match skipBlanks bytes with
  | [] => .error (.ahead .unfinishedObject [])
  | b :: rest =>
    if mark b = .closeBrace then .ok rest
    else if mark b = .comma then .error (.ahead .trailingComma (b :: rest))
    else .error (.ahead .trailingCharacters (b :: rest))

/-- Reads a string in a place where nothing else may stand. -/
def readExpectedText (expected : String) : Reader String := fun bytes =>
  match skipBlanks bytes with
  | [] => .error (.ahead .unfinishedValue [])
  | b :: rest =>
    if mark b = .quote then readText rest else .error (wrongType expected (b :: rest))

/-- The value in a wrapper's string; `embedded` reads a JSON text. -/
def Wrapper.unwrap (embedded : Bytes → Except ReadError Value) (s : String) :
    Wrapper → Except ReadError Value
  | .number => (Number.ofText (Utf8.ofString s)).map .number
  | .text => embedded (Utf8.ofString s)

/-- Reads the value and the end of a wrapper; its key and colon were read. -/
def readWrapped (embedded : Bytes → Except ReadError Value) (wrapper : Wrapper) : Reader Value :=
  fun bytes => do
    let (s, rest) ← readExpectedText wrapper.expectation bytes
    match wrapper.unwrap embedded s with
    | .error e => .error (.inside e)
    | .ok v => .ok (v, ← readLoneEnd rest)

/-! ## 3. Reading -/

/-- Reads a member by a reader of its value. -/
def readMember (value : Reader Value) : Reader (String × Value) := fun bytes =>
  match readKey bytes with
  | .error fault => .error fault
  | .ok (key, rest) => (value rest).map fun (v, after) => ((key, v), after)

/-- Reads the members of an object; its opening mark was read. -/
def readMembers (value : Reader Value) : Reader Members := fun bytes =>
  (braces.readItems (readMember value) bytes).map fun (entries, rest) =>
    (Assoc.ofEntries entries, rest)

/-- The wrapper that an object is, by its first key, and what follows that key. -/
def wrapper? (bytes : Bytes) : Option (Wrapper × Bytes) :=
  match skipBlanks bytes with
  | [] => none
  | b :: rest =>
    if mark b = .quote then
      match readText rest with
      | .ok (key, after) => (Wrapper.ofKey? key).map fun w => (w, after)
      | .error _ => none
    else none

/-- Reads an object below the top level; its opening mark was read. -/
def readObject (embedded : Bytes → Except ReadError Value) (value : Reader Value) :
    Reader Value := fun bytes =>
  match wrapper? bytes with
  | some (wrapper, after) => do readWrapped embedded wrapper (← readColon after)
  | none => (readMembers value bytes).map fun (members, rest) => (.object members, rest)

/-- The most containers that may be open at a time. -/
def depthLimit : Nat := 127

/-- The value of a word. -/
def Word.value : Word → Value
  | .null => .null
  | .boolean b => .boolean b

/-- Reads a value that opens at most `depth` containers at a time; `embedded` reads a JSON text
in a string. -/
def Value.readWithin (embedded : Bytes → Except ReadError Value) (depth : Nat) : Reader Value :=
  fun bytes =>
  match skipBlanks bytes with
  | [] => .error (.ahead .unfinishedValue [])
  | b :: rest =>
    match mark b with
    | .quote => (readText rest).map fun (s, after) => (.text s, after)
    | .minus | .digit => (Number.read (b :: rest)).map fun (n, after) => (.number n, after)
    | .openBracket =>
      match depth with
      | 0 => .error (.ahead .tooDeep (b :: rest))
      | depth + 1 =>
        (brackets.readItems (Value.readWithin embedded depth) rest).map fun (items, after) =>
          (.array items, after)
    | .openBrace =>
      match depth with
      | 0 => .error (.ahead .tooDeep (b :: rest))
      | depth + 1 => readObject embedded (Value.readWithin embedded depth) rest
    | _ =>
      match Word.ofFirst? b with
      | none => .error (.ahead .expectedValue (b :: rest))
      | some (word, tail) => (readWord tail rest).map fun after => (word.value, after)

/-- Passes the white space at the end of a text, which must be all that is left. -/
def readEnd (bytes : Bytes) : Except Fault Unit :=
  match skipBlanks bytes with
  | [] => .ok ()
  | b :: rest => .error (.ahead .trailingCharacters (b :: rest))

/-- Reads a whole text by a reader of what it holds. -/
def readWholeText (reader : Reader α) (text : Bytes) : Except ReadError α :=
  (do
    let (a, rest) ← reader text
    readEnd rest
    pure a).mapError (Fault.place text)

/-- Reads a text that is a value, with at most `levels` texts inside one another. -/
def Value.decodeWithin (levels : Nat) (text : Bytes) : Except ReadError Value :=
  match levels with
  | 0 => .error (Fault.place text (.ahead .unfinishedValue text))
  | levels + 1 => readWholeText (Value.readWithin (Value.decodeWithin levels) depthLimit) text

/-- Reads a text that is a value.  A text in a string is shorter than the text around it, so its
length bounds how many are inside one another. -/
def Value.decode (text : Bytes) : Except ReadError Value :=
  Value.decodeWithin (text.length + 1) text

/-- Reads the members of an object at the top level. -/
def readTopObject (value : Reader Value) : Reader Members := fun bytes =>
  match skipBlanks bytes with
  | [] => .error (.ahead .unfinishedValue [])
  | b :: rest =>
    if mark b = .openBrace then readMembers value rest
    else .error (wrongType "a map" (b :: rest))

/-- Reads a text that is an object: its members. -/
def Members.decode (text : Bytes) : Except ReadError Members :=
  let embedded := Value.decodeWithin text.length
  readWholeText (readTopObject (Value.readWithin embedded (depthLimit - 1))) text

end BrokerBridge.Json
