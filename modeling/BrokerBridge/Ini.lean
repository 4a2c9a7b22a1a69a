import BrokerBridge.Assoc
import BrokerBridge.Text.Blank
import BrokerBridge.Text.Hexadecimal

/-!
# INI documents

A document holds properties, a key and a text each, with an equals sign or a colon between them;
those below a section in brackets belong to it.  A comment takes a whole line.  A value ends with
its line, or has parts in quotes, which may run over lines; a backslash escapes the next character
everywhere but in comments.  What is indented is always a property: its key runs on to the next
mark, whatever stands in between; an indented key with a fault in it is dropped up to the fault.
-/
namespace BrokerBridge.Ini

/-- A reader of what is left of a document; where it finds a fault it gives the document from the
character with the fault on. -/
abbrev Reader (α : Type) := List Char → Except (List Char) (α × List Char)

/-- The properties of a section, or those before the first section. -/
structure Section where
  name : Option String
  properties : Assoc String := []
  deriving DecidableEq, Repr

/-! ## 1. Texts -/

/-- Where a reader of text stands. -/
inductive Place where
  | text
  /-- After a backslash. -/
  | escape
  /-- In an escape by number, after some of its four places. -/
  | number (read : List Char)
  /-- In an escape by number, after a backslash: the line has to end here. -/
  | lineBreak (read : List Char)
  deriving DecidableEq, Repr

/-- What a character after a backslash stands for. -/
def escaped (c : Char) : List Char :=
  match c with
  | '0' => [Char.ofNat 0x00]
  | 'a' => [Char.ofNat 0x07]
  | 'b' => [Char.ofNat 0x08]
  | 't' => ['\t']
  | 'r' => ['\r']
  | 'n' => ['\n']
  | '\n' => []
  | c => [c]

/-- The character with a number in base sixteen, which may have a plus sign. -/
def numbered? (read : List Char) : Option Char := do
  let digits ← (match read with | '+' :: digits => digits | digits => digits).mapM Text.hexDigit?
  let code := digits.foldl (fun code d => 16 * code + d) 0
  if code.isValidChar then some (Char.ofNat code) else none

/-- What the places of an escape by number add to a text: nothing before there are four. -/
def stepNumber (read : List Char) : Option (List Char × Place) :=
  if read.length < 4 then some ([], .number read)
  else (numbered? read).map fun c => ([c], .text)

/-- What a character adds to a text, and the place after it. -/
def step (c : Char) : Place → Option (List Char × Place)
  | .text => if c = '\\' then some ([], .escape) else some ([c], .text)
  | .escape => if c = 'x' then some ([], .number []) else some (escaped c, .text)
  | .number read => if c = '\\' then some ([], .lineBreak read) else stepNumber (read ++ [c])
  | .lineBreak read => if c = '\n' then stepNumber (read ++ ['\\']) else none

/-- What the end of the document adds to a text: a backslash right before it stands for itself. -/
def atEnd? : Place → Option (List Char)
  | .text => some []
  | .escape => some ['\\']
  | .number _ => none
  | .lineBreak _ => none

/-- Reads text up to one of the characters that stop it; the end of the document may stop it only
where `mayEnd` holds. -/
def readUntil (stops : Char → Bool) (mayEnd : Bool) (at_ : Place) : Reader (List Char)
  | [] =>
    match if mayEnd then atEnd? at_ else none with
    | some added => .ok (added, [])
    | none => .error []
  | c :: rest =>
    if at_ = .text ∧ stops c then .ok ([], c :: rest)
    else
      match step c at_ with
      | none => .error (c :: rest)
      | some (added, next) =>
        (readUntil stops mayEnd next rest).map fun (text, after) => (added ++ text, after)

/-- A text without blanks at its end. -/
def trimEnd (cs : List Char) : List Char := (cs.reverse.dropWhile Text.isBlank).reverse

/-- A text without blanks at its start and at its end. -/
def trimmed (cs : List Char) : List Char := trimEnd (cs.dropWhile Text.isBlank)

/-! ## 2. Properties -/

/-- Whether a character ends a line. -/
def isLineEnd (c : Char) : Bool := c == '\n' || c == '\r'

/-- Reads the parts of a value, of which `first` is the first; `fuel` bounds their number. -/
def readParts : (fuel : Nat) → (first : Bool) → Reader (List Char)
  | 0, _, cs => .error cs
  | _ + 1, _, [] => .ok ([], [])
  | fuel + 1, first, c :: rest =>
    if c = '"' ∨ c = '\'' then do
      let (part, after) ← readUntil (· == c) false .text rest
      let (more, left) ← readParts fuel false (after.drop 1)
      .ok (part ++ more, left)
    else do
      let (part, left) ← readUntil isLineEnd true .text (c :: rest)
      .ok (if first then trimmed part else trimEnd part, left)

/-- Whether a character stands between a key and its value. -/
def isMark (c : Char) : Bool := c == '=' || c == ':'

/-- Reads a key up to its mark. -/
def readKey : Reader (List Char) := fun cs => do
  let (key, rest) ← readUntil isMark false .text cs
  .ok (trimmed key, rest)

/-- Reads the mark after a key that is not empty, and the value. -/
def readValue (key : List Char) : Reader (String × String) := fun cs => do
  let start := (cs.drop 1).dropWhile fun c => Text.isBlank c && !isLineEnd c
  let (value, left) ← readParts (start.length + 1) true start
  if key = [] then .error cs else .ok ((String.ofList key, String.ofList value), left)

/-! ## 3. Documents -/

/-- Whether a character indents a line. -/
def isIndent (c : Char) : Bool := c == ' ' || c == '\t'

/-- Passes line ends and blanks, but no blank that a line starts with; tells whether a line starts
after them.  `start` tells it before them. -/
def skipBlanks (start : Bool) : List Char → Bool × List Char
  | [] => (start, [])
  | c :: rest =>
    if isLineEnd c then
      if rest.head?.any isIndent then (true, rest) else skipBlanks (c == '\n') rest
    else if isIndent c then skipBlanks false rest
    else (start, c :: rest)

/-- A document after the blanks it starts with, and whether a line starts after them. -/
def afterBlanks (cs : List Char) : Bool × List Char :=
  ((cs.takeWhile Text.isBlank).getLast? == some '\n', cs.dropWhile Text.isBlank)

/-- Adds a property to a section. -/
def Section.add (s : Section) (property : String × String) : Section :=
  { s with properties := s.properties.put property.1 property.2 }

/-- Reads the sections from one that is read in part; `fuel` bounds the number of entries, and
`start` tells whether a line starts here.  From a fault in an indented key the document is read on;
without a mark after such a key nothing is left to be read. -/
def readSections : (fuel : Nat) → (start : Bool) → Section → List Char → Option (List Section)
  | 0, _, _, _ => none
  | fuel + 1, start, s, cs =>
    match skipBlanks start cs with
    | (_, []) => some [s]
    | (lineStart, c :: rest) =>
      if c = ';' ∨ c = '#' then
        if lineStart then readSections fuel true s ((rest.dropWhile (· != '\n')).drop 1) else none
      else if c = '[' then
        match readUntil (· == ']') false .text rest with
        | .error _ => none
        | .ok (name, after) =>
          (readSections fuel false ⟨some (String.ofList (trimmed name)), []⟩ (after.drop 1)).map
            (s :: ·)
      else
        match readKey (c :: rest) with
        | .error left =>
          if isIndent c then readSections fuel (afterBlanks left).1 s (afterBlanks left).2 else none
        | .ok (key, after) =>
          match readValue key after with
          | .error _ => none
          | .ok (property, left) => readSections fuel false (s.add property) left

/-- Reads a document: its sections, in order, after the one without a name. -/
def read (text : List Char) : Option (List Section) :=
  readSections (text.length + 1) true ⟨none, []⟩ text

end BrokerBridge.Ini
