import BrokerBridge.Json.Value
import Mathlib.Algebra.Field.Rat

/-!
# The grammar of JSON texts

The grammar of RFC 8259, as a type of its derivations: a `Tree` is a value as it is written, with
the white space inside it, the escapes of its strings and the spelling of its numbers, and
`Tree.chars` is what it derives.  A text is a JSON text when it is `Document.bytes` of some
document.

What a tree stands for is said twice.

* **`Tree.plain?`** is the plain reading: strings are unescaped, numbers are rationals, and of
  members with one name the last value stands in the place of the first.
* **`Tree.Denotes`** is the reading of this library.  It keeps the digits of numbers, and it takes
  an object with a `Wrapper` key in front for the number or the text in the wrapper's string.

`Document.Accepted` says which documents have a reading as the members of a message: those that
open few enough containers, pair all surrogates and wrap soundly.
-/
namespace BrokerBridge.Json

/-! ## 1. White space -/

/-- A character of white space. -/
inductive Blank where
  | space
  | tab
  | lineFeed
  | carriageReturn
  deriving DecidableEq, Repr

/-- The character that it is. -/
def Blank.char : Blank → Char
  | .space => ' '
  | .tab => '\t'
  | .lineFeed => '\n'
  | .carriageReturn => '\r'

/-- The characters of white space. -/
def blankChars (ws : List Blank) : List Char := ws.map Blank.char

/-! ## 2. Numbers -/

/-- There are digits, which gives them their literals. -/
scoped instance neZeroTen : NeZero 10 := ⟨nofun⟩

/-- The whole part of a number: zero, or digits of which the first is another. -/
inductive Whole where
  | zero
  | digits (first : Digit) (nonzero : first ≠ 0) (more : List Digit)

namespace Whole

/-- The digits, as written. -/
def toList : Whole → List Digit
  | .zero => [0]
  | .digits first _ more => first :: more

end Whole

/-- An exponent as written: its letter may be a capital and its sign may be left out; a sign is
negative or not. -/
structure Power where
  capital : Bool
  sign : Option Bool
  first : Digit
  more : List Digit

namespace Power

/-- The characters of a sign. -/
def signChars : Option Bool → List Char
  | none => []
  | some true => ['-']
  | some false => ['+']

/-- The characters of an exponent. -/
def chars (p : Power) : List Char :=
  (if p.capital then 'E' else 'e') :: signChars p.sign ++
    (p.first :: p.more).map Number.digitChar

/-- The exponent that it writes. -/
def exponent (p : Power) : Exponent := ⟨p.sign.getD false, p.first :: p.more⟩

end Power

/-- A number as written. -/
structure Numeral where
  minus : Bool
  whole : Whole
  fraction : Option (Digit × List Digit)
  power : Option Power

namespace Numeral

/-- The digits of a fraction. -/
def fractionDigits : Option (Digit × List Digit) → List Digit
  | none => []
  | some (first, more) => first :: more

/-- The characters of a number. -/
def chars (n : Numeral) : List Char :=
  (if n.minus then ['-'] else []) ++ n.whole.toList.map Number.digitChar ++
    Number.fractionChars (fractionDigits n.fraction) ++ (n.power.map Power.chars).getD []

/-- The number that it writes. -/
def number (n : Numeral) : Number :=
  ⟨n.minus, n.whole.toList, fractionDigits n.fraction, n.power.map Power.exponent⟩

end Numeral

/-- The rational that a number is. -/
def Number.value (n : Number) : ℚ :=
  (if n.negative then -1 else 1) * natOf (n.whole ++ n.fraction) *
    10 ^ ((n.exponent.map Exponent.value).getD 0 - n.fraction.length)

/-! ## 3. Strings -/

/-- A hexadecimal digit: a decimal one, or a letter of either case. -/
inductive HexDigit where
  | decimal (d : Fin 10)
  | lower (letter : Fin 6)
  | upper (letter : Fin 6)
  deriving DecidableEq, Repr

namespace HexDigit

/-- The character of a hexadecimal digit. -/
def char : HexDigit → Char
  | .decimal d => Char.ofNat (0x30 + d)
  | .lower letter => Char.ofNat (0x61 + letter)
  | .upper letter => Char.ofNat (0x41 + letter)

/-- The value of a hexadecimal digit. -/
def value : HexDigit → Nat
  | .decimal d => d
  | .lower letter | .upper letter => 10 + letter

end HexDigit

/-- An escape of one letter. -/
inductive ShortEscape where
  | quote
  | backslash
  | slash
  | backspace
  | formFeed
  | lineFeed
  | carriageReturn
  | tab
  deriving DecidableEq, Repr

namespace ShortEscape

/-- The letter of an escape. -/
def letter : ShortEscape → Char
  | .quote => '"'
  | .backslash => '\\'
  | .slash => '/'
  | .backspace => 'b'
  | .formFeed => 'f'
  | .lineFeed => 'n'
  | .carriageReturn => 'r'
  | .tab => 't'

/-- The character that an escape stands for. -/
def char : ShortEscape → Char
  | .quote => '"'
  | .backslash => '\\'
  | .slash => '/'
  | .backspace => Char.ofNat 0x08
  | .formFeed => Char.ofNat 0x0C
  | .lineFeed => '\n'
  | .carriageReturn => '\r'
  | .tab => '\t'

end ShortEscape

/-- Whether a character may stand in a string as it is. -/
def IsUnescaped (c : Char) : Prop := c ≠ '"' ∧ c ≠ '\\' ∧ 0x20 ≤ c.toNat

/-- A piece of a string: a character that stands for itself, or an escape. -/
inductive Piece where
  | plain (c : Char) (unescaped : IsUnescaped c)
  | short (escape : ShortEscape)
  | unit (a b c d : HexDigit)

namespace Piece

/-- The characters of a piece. -/
def chars : Piece → List Char
  | .plain c _ => [c]
  | .short escape => ['\\', escape.letter]
  | .unit a b c d => ['\\', 'u', a.char, b.char, c.char, d.char]

/-- The code unit that four hexadecimal digits write. -/
def unitValue (a b c d : HexDigit) : Nat :=
  (a.value * 16 + b.value) * 256 + c.value * 16 + d.value

end Piece

/-- The characters that the pieces of a string stand for.  Two escapes for the halves of a
surrogate pair stand for one character; half a pair stands for none. -/
def unescape? : List Piece → Option (List Char)
  | [] => some []
  | .plain c _ :: rest => (unescape? rest).map (c :: ·)
  | .short escape :: rest => (unescape? rest).map (escape.char :: ·)
  | .unit a b c d :: .unit a' b' c' d' :: rest =>
    let lead := Piece.unitValue a b c d
    let trail := Piece.unitValue a' b' c' d'
    if isTrailing lead then none
    else if isLeading lead then
      if isTrailing trail then (unescape? rest).map (Char.ofNat (joinSurrogates lead trail) :: ·)
      else none
    else (unescape? (.unit a' b' c' d' :: rest)).map (Char.ofNat lead :: ·)
  | .unit a b c d :: rest =>
    let lead := Piece.unitValue a b c d
    if isTrailing lead ∨ isLeading lead then none
    else (unescape? rest).map (Char.ofNat lead :: ·)

/-- The text that the pieces of a string stand for. -/
def text? (pieces : List Piece) : Option String := (unescape? pieces).map String.ofList

/-- The characters of a string between its quotes. -/
def quotedChars (pieces : List Piece) : List Char := '"' :: pieces.flatMap Piece.chars ++ ['"']

/-! ## 4. Values -/

/-- The name of a member, with the white space around it. -/
structure Key where
  before : List Blank
  pieces : List Piece
  after : List Blank

/-- The text of a name. -/
def Key.text? (key : Key) : Option String := Json.text? key.pieces

/-- The characters of a name. -/
def Key.chars (key : Key) : List Char :=
  blankChars key.before ++ quotedChars key.pieces ++ blankChars key.after

mutual

/-- A value as written.  An array or an object has nothing but white space inside, or a first item
with white space around it and then more. -/
inductive Tree where
  | null
  | boolean (b : Bool)
  | numeral (n : Numeral)
  | quoted (pieces : List Piece)
  | emptyArray (inside : List Blank)
  | array (before : List Blank) (first : Tree) (after : List Blank) (more : Items)
  | emptyObject (inside : List Blank)
  | object (key : Key) (before : List Blank) (first : Tree) (after : List Blank) (more : Entries)

/-- Further items of an array, each with a comma in front. -/
inductive Items where
  | nil
  | cons (before : List Blank) (value : Tree) (after : List Blank) (rest : Items)

/-- Further members of an object, each with a comma in front. -/
inductive Entries where
  | nil
  | cons (key : Key) (before : List Blank) (value : Tree) (after : List Blank) (rest : Entries)

end

mutual

/-- The characters of a value. -/
def Tree.chars : Tree → List Char
  | .null => ['n', 'u', 'l', 'l']
  | .boolean true => ['t', 'r', 'u', 'e']
  | .boolean false => ['f', 'a', 'l', 's', 'e']
  | .numeral n => n.chars
  | .quoted pieces => quotedChars pieces
  | .emptyArray inside => '[' :: blankChars inside ++ [']']
  | .array before first after more =>
    '[' :: blankChars before ++ first.chars ++ blankChars after ++ more.chars ++ [']']
  | .emptyObject inside => '{' :: blankChars inside ++ ['}']
  | .object key before first after more =>
    '{' :: key.chars ++ ':' :: blankChars before ++ first.chars ++ blankChars after ++
      more.chars ++ ['}']

/-- The characters of further items. -/
def Items.chars : Items → List Char
  | .nil => []
  | .cons before value after rest =>
    ',' :: blankChars before ++ value.chars ++ blankChars after ++ rest.chars

/-- The characters of further members. -/
def Entries.chars : Entries → List Char
  | .nil => []
  | .cons key before value after rest =>
    ',' :: key.chars ++ ':' :: blankChars before ++ value.chars ++ blankChars after ++ rest.chars

end

/-- A JSON text: a value with white space around it. -/
structure Document where
  before : List Blank
  tree : Tree
  after : List Blank

namespace Document

/-- The characters of a text. -/
def chars (doc : Document) : List Char :=
  blankChars doc.before ++ doc.tree.chars ++ blankChars doc.after

/-- The bytes of a text, in UTF-8. -/
def bytes (doc : Document) : Bytes := Utf8.encode doc.chars

end Document

/-! ## 5. The parts of a value -/

mutual

/-- The values inside a value, at any depth. -/
def Tree.parts : Tree → List Tree
  | .array _ first _ more => (first :: first.parts) ++ more.parts
  | .object _ _ first _ more => (first :: first.parts) ++ more.parts
  | _ => []

/-- The values of further items, and the values inside them. -/
def Items.parts : Items → List Tree
  | .nil => []
  | .cons _ value _ rest => (value :: value.parts) ++ rest.parts

/-- The values of further members, and the values inside them. -/
def Entries.parts : Entries → List Tree
  | .nil => []
  | .cons _ _ value _ rest => (value :: value.parts) ++ rest.parts

end

/-- A value and the values inside it. -/
def Tree.nodes (t : Tree) : List Tree := t :: t.parts

mutual

/-- The most containers that a value opens at a time. -/
def Tree.depth : Tree → Nat
  | .emptyArray _ | .emptyObject _ => 1
  | .array _ first _ more => max first.depth more.depth + 1
  | .object _ _ first _ more => max first.depth more.depth + 1
  | _ => 0

/-- The most containers that further items open at a time. -/
def Items.depth : Items → Nat
  | .nil => 0
  | .cons _ value _ rest => max value.depth rest.depth

/-- The most containers that further members open at a time. -/
def Entries.depth : Entries → Nat
  | .nil => 0
  | .cons _ _ value _ rest => max value.depth rest.depth

end

/-- The members among further members: names, where their surrogates are paired, with values. -/
def Entries.members : Entries → List (Option String × Tree)
  | .nil => []
  | .cons key _ value _ rest => (key.text?, value) :: rest.members

/-- The members of an object, in order; other values have none. -/
def Tree.members : Tree → List (Option String × Tree)
  | .object key _ first _ more => (key.text?, first) :: more.members
  | _ => []

/-- The white space among further members, as the lists of it that stand between the other
marks. -/
def Entries.blanks : Entries → List (List Blank)
  | .nil => []
  | .cons key before _ after rest => key.before :: key.after :: before :: after :: rest.blanks

/-- The white space among further items. -/
def Items.blanks : Items → List (List Blank)
  | .nil => []
  | .cons before _ after rest => before :: after :: rest.blanks

/-- The white space between the marks of a value, without the values inside it. -/
def Tree.blanks : Tree → List (List Blank)
  | .emptyArray inside | .emptyObject inside => [inside]
  | .array before _ after more => before :: after :: more.blanks
  | .object key before _ after more => key.before :: key.after :: before :: after :: more.blanks
  | _ => []

/-- No white space stands between the marks of a value, at any depth. -/
def Tree.Compact (t : Tree) : Prop := ∀ n ∈ t.nodes, ∀ ws ∈ n.blanks, ws = []

/-- No object in a value has two members with one name. -/
def Tree.NamesDistinct (t : Tree) : Prop := ∀ n ∈ t.nodes, (n.members.map Prod.fst).Nodup

/-- Whether a value is an object. -/
def Tree.IsObject : Tree → Prop
  | .emptyObject _ | .object .. => True
  | _ => False

/-! ## 6. The plain reading -/

/-- What a JSON text says. -/
inductive Plain where
  | null
  | boolean (b : Bool)
  | number (value : ℚ)
  | text (s : String)
  | array (items : List Plain)
  | object (members : List (String × Plain))

mutual

/-- What a value says, if its strings say something. -/
def Tree.plain? : Tree → Option Plain
  | .null => some .null
  | .boolean b => some (.boolean b)
  | .numeral n => some (.number n.number.value)
  | .quoted pieces => (text? pieces).map .text
  | .emptyArray _ => some (.array [])
  | .array _ first _ more => do
    let value ← first.plain?
    let values ← more.plain?
    some (.array (value :: values))
  | .emptyObject _ => some (.object [])
  | .object key _ first _ more => do
    let name ← key.text?
    let value ← first.plain?
    let entries ← more.plain?
    some (.object (Assoc.ofEntries ((name, value) :: entries)))

/-- What further items say. -/
def Items.plain? : Items → Option (List Plain)
  | .nil => some []
  | .cons _ value _ rest => do
    let value ← value.plain?
    let values ← rest.plain?
    some (value :: values)

/-- What further members say. -/
def Entries.plain? : Entries → Option (List (String × Plain))
  | .nil => some []
  | .cons key _ value _ rest => do
    let name ← key.text?
    let value ← value.plain?
    let entries ← rest.plain?
    some ((name, value) :: entries)

end

/-- A text is an object with these members. -/
def PlainReading (text : Bytes) (members : List (String × Plain)) : Prop :=
  ∃ doc : Document, doc.bytes = text ∧ doc.tree.plain? = some (.object members)

/-! ## 7. The reading of this library -/

mutual

/-- What value a value stands for. -/
inductive Tree.Denotes : Tree → Value → Prop where
  | null : Tree.Denotes .null .null
  | boolean (b : Bool) : Tree.Denotes (.boolean b) (.boolean b)
  | numeral (n : Numeral) : Tree.Denotes (.numeral n) (.number n.number)
  | quoted {pieces : List Piece} {s : String} (hs : text? pieces = some s) :
      Tree.Denotes (.quoted pieces) (.text s)
  | emptyArray (inside : List Blank) : Tree.Denotes (.emptyArray inside) (.array [])
  | array {before after : List Blank} {first : Tree} {more : Items} {values : List Value}
      (items : Items.Denote (.cons before first after more) values) :
      Tree.Denotes (.array before first after more) (.array values)
  | emptyObject (inside : List Blank) : Tree.Denotes (.emptyObject inside) (.object [])
  | object {key : Key} {before after : List Blank} {first : Tree} {more : Entries}
      {name : String} {entries : List (String × Value)} (hname : key.text? = some name)
      (hplain : Wrapper.ofKey? name = none)
      (members : Entries.Denote (.cons key before first after more) entries) :
      Tree.Denotes (.object key before first after more) (.object (Assoc.ofEntries entries))
  | wrappedNumber {key : Key} {before after : List Blank} {pieces : List Piece} {n : Numeral}
      (hname : key.text? = some numberKey) (hs : unescape? pieces = some n.chars) :
      Tree.Denotes (.object key before (.quoted pieces) after .nil) (.number n.number)
  | wrappedText {key : Key} {before after : List Blank} {pieces : List Piece} {doc : Document}
      {v : Value} (hname : key.text? = some textKey) (hs : unescape? pieces = some doc.chars)
      (hdepth : doc.tree.depth ≤ depthLimit) (inner : Tree.Denotes doc.tree v) :
      Tree.Denotes (.object key before (.quoted pieces) after .nil) v

/-- What values further items stand for. -/
inductive Items.Denote : Items → List Value → Prop where
  | nil : Items.Denote .nil []
  | cons {before after : List Blank} {value : Tree} {rest : Items} {v : Value}
      {values : List Value} (head : Tree.Denotes value v) (tail : Items.Denote rest values) :
      Items.Denote (.cons before value after rest) (v :: values)

/-- What entries further members stand for. -/
inductive Entries.Denote : Entries → List (String × Value) → Prop where
  | nil : Entries.Denote .nil []
  | cons {key : Key} {before after : List Blank} {value : Tree} {rest : Entries} {name : String}
      {v : Value} {entries : List (String × Value)} (hname : key.text? = some name)
      (head : Tree.Denotes value v) (tail : Entries.Denote rest entries) :
      Entries.Denote (.cons key before value after rest) ((name, v) :: entries)

end

/-- What members the text of a message stands for.  The object that is the whole message is no
wrapper. -/
inductive Tree.Holds : Tree → Members → Prop where
  | empty (inside : List Blank) : Holds (.emptyObject inside) []
  | entries {key : Key} {before after : List Blank} {first : Tree} {more : Entries}
      {entries : List (String × Value)}
      (members : Entries.Denote (.cons key before first after more) entries) :
      Holds (.object key before first after more) (Assoc.ofEntries entries)

/-! ## 8. Which texts have a reading -/

/-- All names and strings in this place have their surrogates paired. -/
def Tree.Paired : Tree → Prop
  | .quoted pieces => (unescape? pieces).isSome
  | t => ∀ m ∈ t.members, m.1.isSome

/-- The key in front of an object, where it is a wrapper's. -/
def Tree.wrapper? (t : Tree) : Option Wrapper :=
  t.members.head?.bind fun m => m.1.bind Wrapper.ofKey?

/-- The object has one member, a string of these characters. -/
def Tree.HoldsAlone (t : Tree) (chars : List Char) : Prop :=
  ∃ name pieces, t.members = [(name, .quoted pieces)] ∧ unescape? pieces = some chars

/-- If the object is the wrapper of a number, a number is what it wraps. -/
def Tree.WrapsNumber (t : Tree) : Prop :=
  t.wrapper? = some .number → ∃ n : Numeral, t.HoldsAlone n.chars

/-- If the object is the wrapper of a text, a text with a reading is what it wraps. -/
def Tree.WrapsText (t : Tree) : Prop :=
  t.wrapper? = some .text →
    ∃ doc : Document, t.HoldsAlone doc.chars ∧ doc.tree.depth ≤ depthLimit ∧
      ∃ v, doc.tree.Denotes v

/-- A text that is the text of a message: an object that opens few enough containers, whose
strings all stand for something, and in which every wrapper below the top level is sound. -/
structure Document.Accepted (doc : Document) : Prop where
  isObject : doc.tree.IsObject
  depth_le : doc.tree.depth ≤ depthLimit
  paired : ∀ t ∈ doc.tree.nodes, t.Paired
  wrapsNumber : ∀ t ∈ doc.tree.parts, t.WrapsNumber
  wrapsText : ∀ t ∈ doc.tree.parts, t.WrapsText

end BrokerBridge.Json
