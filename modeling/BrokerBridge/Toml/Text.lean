import BrokerBridge.Text.Hexadecimal

/-!
# Text of TOML documents

Blanks, comments, strings and keys.  Every reader here takes the characters that are left and
gives what it read and what is left then, or nothing where the document is ill-formed.

A basic string, in double quotes, has escapes; a literal string, in single quotes, has none.  Both
may stand between three quotes and then run over lines: a line end right after the opening is not
part of the text, up to two quotes may stand right before the closing, and in a basic string a
backslash at the end of a line swallows all blanks and line ends after it.
-/
namespace BrokerBridge.Toml

/-- A reader of what is left of a document. -/
abbrev Reader (α : Type) := List Char → Option (α × List Char)

/-! ## 1. Blanks and comments -/

/-- Whether a character may stand in comments and strings as it is: no control character but the
tab. -/
def isPlain (c : Char) : Bool := c == '\t' || decide (0x20 ≤ c.toNat ∧ c.toNat ≠ 0x7F)

/-- Whether a character is a blank within a line. -/
def isBlank (c : Char) : Bool := c == ' ' || c == '\t'

/-- Passes blanks within a line. -/
def skipBlanks (cs : List Char) : List Char := cs.dropWhile isBlank

/-- Passes blanks, comments and line ends. -/
def skipLines (inComment : Bool) : List Char → Option (List Char)
  | [] => some []
  | c :: rest =>
    if c = '\n' then skipLines false rest
    else if c = '\r' then if rest.head? = some '\n' then skipLines inComment rest else none
    else if inComment then if isPlain c then skipLines true rest else none
    else if isBlank c then skipLines false rest
    else if c = '#' then skipLines true rest
    else some (c :: rest)

/-- Passes the rest of a line, which may hold blanks and a comment only. -/
def endLine (inComment : Bool) : List Char → Option (List Char)
  | [] => some []
  | c :: rest =>
    if c = '\n' then some rest
    else if c = '\r' then if rest.head? = some '\n' then endLine inComment rest else none
    else if inComment then if isPlain c then endLine true rest else none
    else if isBlank c then endLine false rest
    else if c = '#' then endLine true rest
    else none

/-! ## 2. Basic strings -/

/-- Where a reader of a basic string stands. -/
inductive Place where
  /-- In the text. -/
  | text
  /-- After a backslash. -/
  | escape
  /-- In an escape by number: so many digits are still to come. -/
  | digits (left : Nat) (code : Nat)
  /-- After a backslash at the end of a line, and whether the line end was seen. -/
  | fold (ended : Bool)
  deriving DecidableEq, Repr

/-- What a character does in a basic string. -/
inductive Move where
  /-- It adds to the text and leads to a place. -/
  | on (added : List Char) (next : Place)
  /-- It closes the string. -/
  | close (added : List Char) (rest : List Char)
  | fail
  deriving DecidableEq, Repr

/-- The closing of a string over lines, at its first quote: up to two quotes before the closing
belong to the text. -/
def closing? (quote : Char) (rest : List Char) : Option (List Char × List Char) :=
  match rest with
  | a :: b :: after =>
    if a = quote ∧ b = quote then
      let extra := (after.take 2).takeWhile (· == quote)
      some (extra, after.drop extra.length)
    else none
  | _ => none

/-- A character in the text of a basic string. -/
def textMove (overLines : Bool) (c : Char) (rest : List Char) : Move :=
  if c = '"' then
    if overLines then
      match closing? '"' rest with
      | some (extra, after) => .close extra after
      | none => .on [c] .text
    else .close [] rest
  else if c = '\\' then .on [] .escape
  else if c = '\n' then if overLines then .on [c] .text else .fail
  else if c = '\r' then
    if overLines ∧ rest.head? = some '\n' then .on [c] .text else .fail
  else if isPlain c then .on [c] .text
  else .fail

/-- The character that an escape of one letter stands for. -/
def escaped? (c : Char) : Option Char :=
  match c with
  | 'b' => some (Char.ofNat 0x08)
  | 't' => some '\t'
  | 'n' => some '\n'
  | 'f' => some (Char.ofNat 0x0C)
  | 'r' => some '\r'
  | 'e' => some (Char.ofNat 0x1B)
  | '"' => some '"'
  | '\\' => some '\\'
  | _ => none

/-- The number of digits of an escape by number. -/
def escapeLength? (c : Char) : Option Nat :=
  if c = 'x' then some 2 else if c = 'u' then some 4 else if c = 'U' then some 8 else none

/-- A character after a backslash. -/
def escapeMove (overLines : Bool) (c : Char) (rest : List Char) : Move :=
  match escaped? c, escapeLength? c with
  | some e, _ => .on [e] .text
  | none, some n => .on [] (.digits n 0)
  | none, none =>
    if overLines ∧ isBlank c then .on [] (.fold false)
    else if overLines ∧ c = '\n' then .on [] (.fold true)
    else if overLines ∧ c = '\r' ∧ rest.head? = some '\n' then .on [] (.fold false)
    else .fail

/-- A character among the digits of an escape. -/
def digitMove (left code : Nat) (c : Char) : Move :=
  match Text.hexDigit? c with
  | none => .fail
  | some d =>
    let code := 16 * code + d
    if 1 < left then .on [] (.digits (left - 1) code)
    else if code.isValidChar then .on [Char.ofNat code] .text
    else .fail

/-- A character of a basic string. -/
def move (overLines : Bool) (c : Char) (rest : List Char) : Place → Move
  | .text => textMove overLines c rest
  | .escape => escapeMove overLines c rest
  | .digits left code => digitMove left code c
  | .fold ended =>
    if isBlank c then .on [] (.fold ended)
    else if c = '\n' then .on [] (.fold true)
    else if c = '\r' ∧ rest.head? = some '\n' then .on [] (.fold ended)
    else if ended then textMove overLines c rest
    else .fail

/-- Reads a basic string from a place in it. -/
def readBasic (overLines : Bool) (at_ : Place) : Reader (List Char)
  | [] => none
  | c :: rest =>
    match move overLines c rest at_ with
    | .on added next =>
      (readBasic overLines next rest).map fun (text, after) => (added ++ text, after)
    | .close added after => some (added, after)
    | .fail => none

/-! ## 3. Literal strings -/

/-- Reads a literal string after its opening. -/
def readLiteral (overLines : Bool) : Reader (List Char)
  | [] => none
  | c :: rest =>
    let more : Option (List Char × List Char) :=
      (readLiteral overLines rest).map fun (text, after) => (c :: text, after)
    if c = '\'' then
      if overLines then
        match closing? c rest with
        | some (extra, after) => some (extra, after)
        | none => more
      else some ([], rest)
    else if c = '\n' then if overLines then more else none
    else if c = '\r' then if overLines ∧ rest.head? = some '\n' then more else none
    else if isPlain c then more
    else none

/-- What is left after a line end that stands right at the start. -/
def dropLineEnd : List Char → List Char
  | '\n' :: rest => rest
  | '\r' :: '\n' :: rest => rest
  | cs => cs

/-- Reads a string of any kind, or none where no quote stands. -/
def readString : Reader String := fun cs =>
  (match cs with
    | '"' :: '"' :: '"' :: rest => readBasic true .text (dropLineEnd rest)
    | '"' :: rest => readBasic false .text rest
    | '\'' :: '\'' :: '\'' :: rest => readLiteral true (dropLineEnd rest)
    | '\'' :: rest => readLiteral false rest
    | _ => none).map fun (text, after) => (String.ofList text, after)

/-! ## 4. Keys -/

/-- Whether a character may stand in a key without quotes. -/
def isKeyChar (c : Char) : Bool := c.isAlphanum || c == '_' || c == '-'

/-- Reads one key: bare, or in quotes on one line. -/
def readKey : Reader String := fun cs =>
  match cs with
  | '"' :: rest => (readBasic false .text rest).map fun (key, after) => (String.ofList key, after)
  | '\'' :: rest => (readLiteral false rest).map fun (key, after) => (String.ofList key, after)
  | _ =>
    match cs.takeWhile isKeyChar with
    | [] => none
    | key => some (String.ofList key, cs.dropWhile isKeyChar)

/-- How many keys a dotted key may have, and how many brackets and braces may be open at a time. -/
def depthLimit : Nat := 80

/-- Reads the keys of a dotted key, at most `depth` of them, with blanks around the points. -/
def readKeys : (depth : Nat) → Reader (List String)
  | 0, _ => none
  | depth + 1, cs =>
    match readKey (skipBlanks cs) with
    | none => none
    | some (key, rest) =>
      match skipBlanks rest with
      | '.' :: after => (readKeys depth after).map fun (keys, left) => (key :: keys, left)
      | after => some ([key], after)

/-- Reads a dotted key: the tables on the way, and the last key. -/
def readPath : Reader (List String × String) := fun cs =>
  match readKeys depthLimit cs with
  | none => none
  | some (keys, rest) => keys.getLast?.map fun key => ((keys.dropLast, key), rest)

end BrokerBridge.Toml
