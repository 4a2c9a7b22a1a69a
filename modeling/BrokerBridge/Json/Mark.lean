import BrokerBridge.Json.Fault

/-!
# The marks of JSON text

Outside of its strings a JSON text is made of bytes that each have one role, its `Mark`.  Arrays
and objects share one shape, `Enclosure`: items with commas between them up to a closing mark.
`Enclosure.turn` decides what comes next at any point inside, and `Enclosure.items` reads all
items by it.  Every turn but a closing one is followed by an item that takes at least a byte, so
the number of bytes is fuel enough (`Enclosure.readItems`).
-/
namespace BrokerBridge.Json

/-! ## 1. Roles of bytes -/

/-- The role of a byte outside of strings. -/
inductive Mark where
  | quote
  | comma
  | colon
  | openBracket
  | closeBracket
  | openBrace
  | closeBrace
  | minus
  | digit
  | other
  deriving DecidableEq, Repr

/-- A decimal digit. -/
abbrev Digit := Fin 10

/-- The digit that a byte writes. -/
def byteDigit? (b : UInt8) : Option Digit :=
  if h : 0x30 ≤ b.toNat ∧ b.toNat ≤ 0x39 then some ⟨b.toNat - 0x30, by omega⟩ else none

/-- The mark that a byte is. -/
def mark (b : UInt8) : Mark :=
  if b = 0x22 then .quote
  else if b = 0x2C then .comma
  else if b = 0x3A then .colon
  else if b = 0x5B then .openBracket
  else if b = 0x5D then .closeBracket
  else if b = 0x7B then .openBrace
  else if b = 0x7D then .closeBrace
  else if b = 0x2D then .minus
  else if (byteDigit? b).isSome then .digit
  else .other

/-- Whether a byte is white space in JSON: space, tab, line feed or carriage return. -/
def isBlank (b : UInt8) : Bool := b == 0x20 || b == 0x09 || b == 0x0A || b == 0x0D

/-- The bytes from the first that is not white space. -/
def skipBlanks (bytes : Bytes) : Bytes := bytes.dropWhile isBlank

/-! ## 2. Words and colons -/

/-- Reads a word byte by byte. -/
def readWord : (word : Bytes) → Bytes → Except Fault Bytes
  | [], rest => .ok rest
  | _ :: _, [] => .error (.behind .unfinishedValue [])
  | w :: word, b :: rest =>
    if b = w then readWord word rest else .error (.behind .expectedWord rest)

/-- The rest of `null` after its first letter. -/
def nullTail : Bytes := [0x75, 0x6C, 0x6C]

/-- The rest of `true` after its first letter. -/
def trueTail : Bytes := [0x72, 0x75, 0x65]

/-- The rest of `false` after its first letter. -/
def falseTail : Bytes := [0x61, 0x6C, 0x73, 0x65]

/-- A value that is a word. -/
inductive Word where
  | null
  | boolean (b : Bool)
  deriving DecidableEq, Repr

/-- The word that starts with a byte, and the rest of it. -/
def Word.ofFirst? (b : UInt8) : Option (Word × Bytes) :=
  if b = 0x6E then some (.null, nullTail)
  else if b = 0x74 then some (.boolean true, trueTail)
  else if b = 0x66 then some (.boolean false, falseTail)
  else none

/-- Reads the colon after a key. -/
def readColon (bytes : Bytes) : Except Fault Bytes :=
  match skipBlanks bytes with
  | [] => .error (.ahead .unfinishedObject [])
  | b :: rest =>
    if mark b = .colon then .ok rest else .error (.ahead .expectedColon (b :: rest))

/-! ## 3. Enclosures -/

/-- A kind of container: the mark that closes it, and the causes for a text that ends inside it
and for an item with neither a comma nor the closing mark after it. -/
structure Enclosure where
  close : Mark
  unfinished : Cause
  unseparated : Cause

/-- Items between brackets. -/
def brackets : Enclosure := ⟨.closeBracket, .unfinishedArray, .expectedCommaOrBracket⟩

/-- Items between braces. -/
def braces : Enclosure := ⟨.closeBrace, .unfinishedObject, .expectedCommaOrBrace⟩

/-- What comes next inside a container: its end, with what stands after it, or an item. -/
inductive Turn where
  | close (rest : Bytes)
  | item (bytes : Bytes)
  deriving DecidableEq, Repr

namespace Enclosure

/-- What comes next inside a container; `first` says that no item has been read. -/
def turn (e : Enclosure) (first : Bool) (bytes : Bytes) : Except Fault Turn :=
  match skipBlanks bytes with
  | [] => .error (.ahead e.unfinished [])
  | b :: rest =>
    if mark b = e.close then .ok (.close rest)
    else if first then .ok (.item (b :: rest))
    else if mark b = .comma then
      match skipBlanks rest with
      | [] => .error (.ahead .unfinishedValue [])
      | c :: more =>
        if mark c = e.close then .error (.ahead .trailingComma (c :: more))
        else .ok (.item (c :: more))
    else .error (.ahead e.unseparated (b :: rest))

/-- Reads items up to the closing mark, at most `fuel` of them. -/
def items (e : Enclosure) (item : Reader α) : (fuel : Nat) → (first : Bool) → Reader (List α)
  | 0, _, bytes => .error (.ahead e.unfinished bytes)
  | fuel + 1, first, bytes =>
    match e.turn first bytes with
    | .error fault => .error fault
    | .ok (.close rest) => .ok ([], rest)
    | .ok (.item start) =>
      match item start with
      | .error fault => .error fault
      | .ok (a, rest) => (items e item fuel false rest).map fun (more, after) => (a :: more, after)

/-- Reads all items of a container; the opening mark has been read. -/
def readItems (e : Enclosure) (item : Reader α) : Reader (List α) :=
  fun bytes => e.items item (bytes.length + 1) true bytes

end Enclosure

end BrokerBridge.Json
