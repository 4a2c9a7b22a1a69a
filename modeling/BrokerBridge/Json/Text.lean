import BrokerBridge.Json.Mark

/-!
# Strings of JSON text

`readText` reads a string from after its opening quote.  Escapes become the bytes of the
characters they name, and the whole is decoded as UTF-8 once its closing quote is reached, so a
fault of an escape goes before one of the encoding.  The latter is placed by the decoded bytes:
as far before the end of the string as the first bad byte is before their end, which is that byte
itself where no escape follows it.  `skipText` passes over a string that nobody asks for and looks
only at its escapes.

`textChars` is the way back: a quote, a backslash and the control characters are escaped, and
every other character stands as it is.
-/
namespace BrokerBridge.Json

/-! ## 1. Escapes -/

/-- The byte that starts an escape. -/
def backslash : UInt8 := 0x5C

/-- The letter of an escape by code unit. -/
def unitLetter : UInt8 := 0x75

/-- The byte that an escape of one letter stands for. -/
def shortEscape? (letter : UInt8) : Option UInt8 :=
  if letter = 0x22 then some 0x22
  else if letter = backslash then some backslash
  else if letter = 0x2F then some 0x2F
  else if letter = 0x62 then some 0x08
  else if letter = 0x66 then some 0x0C
  else if letter = 0x6E then some 0x0A
  else if letter = 0x72 then some 0x0D
  else if letter = 0x74 then some 0x09
  else none

/-- The value of a hexadecimal digit. -/
def hexDigit? (b : UInt8) : Option Nat :=
  if 0x30 ≤ b ∧ b ≤ 0x39 then some (b.toNat - 0x30)
  else if 0x41 ≤ b ∧ b ≤ 0x46 then some (b.toNat - 0x41 + 10)
  else if 0x61 ≤ b ∧ b ≤ 0x66 then some (b.toNat - 0x61 + 10)
  else none

/-- The code unit that four hexadecimal digits write. -/
def hexUnit? (a b c d : UInt8) : Option Nat := do
  pure (((← hexDigit? a) * 16 + (← hexDigit? b)) * 256 + (← hexDigit? c) * 16 + (← hexDigit? d))

/-- Reads a code unit. -/
def readUnit : Reader Nat
  | a :: b :: c :: d :: rest =>
    match hexUnit? a b c d with
    | some unit => .ok (unit, rest)
    | none => .error (.behind .invalidEscape rest)
  | _ => .error (.behind .unfinishedString [])

/-- Whether a code unit is the first half of a surrogate pair. -/
def isLeading (unit : Nat) : Bool := decide (0xD800 ≤ unit ∧ unit ≤ 0xDBFF)

/-- Whether a code unit is the second half of a surrogate pair. -/
def isTrailing (unit : Nat) : Bool := decide (0xDC00 ≤ unit ∧ unit ≤ 0xDFFF)

/-- The code point of a surrogate pair. -/
def joinSurrogates (lead trail : Nat) : Nat :=
  (lead - 0xD800) * 0x400 + (trail - 0xDC00) + 0x10000

/-- Reads one byte that must be `b`, between the halves of a surrogate pair. -/
def readPairByte (b : UInt8) : Bytes → Except Fault Bytes
  | [] => .error (.behind .unfinishedString [])
  | c :: rest => if c = b then .ok rest else .error (.behind .unfinishedSurrogatePair rest)

/-- Reads the character of an escape by code unit, after its letter. -/
def readUnitEscape (bytes : Bytes) : Except Fault (Char × Bytes) := do
  let (lead, rest) ← readUnit bytes
  if isTrailing lead then .error (.behind .loneSurrogate rest)
  else if isLeading lead then
    let rest ← readPairByte backslash rest
    let rest ← readPairByte unitLetter rest
    let (trail, rest) ← readUnit rest
    if isTrailing trail then .ok (Char.ofNat (joinSurrogates lead trail), rest)
    else .error (.behind .loneSurrogate rest)
  else .ok (Char.ofNat lead, rest)

/-- Reads an escape after its backslash: the bytes it stands for. -/
def readEscape : Reader Bytes
  | [] => .error (.behind .unfinishedString [])
  | letter :: rest =>
    if letter = unitLetter then
      (readUnitEscape rest).map fun (c, after) => (Utf8.encode [c], after)
    else match shortEscape? letter with
      | some b => .ok ([b], rest)
      | none => .error (.behind .invalidEscape rest)

/-- Reads over an escape after its backslash; its code unit may be any. -/
def skipEscape : Bytes → Except Fault Bytes
  | [] => .error (.behind .unfinishedString [])
  | letter :: rest =>
    if letter = unitLetter then (readUnit rest).map Prod.snd
    else if (shortEscape? letter).isSome then .ok rest
    else .error (.behind .invalidEscape rest)

/-! ## 2. Reading -/

/-- Whether a byte must not stand in a string as it is. -/
def isControl (b : UInt8) : Bool := b < 0x20

/-- The bytes of a string up to its closing quote, and what is left.  The first `skip` bytes
belong to an escape that was read. -/
def scanText : (skip : Nat) → Reader Bytes
  | _, [] => .error (.behind .unfinishedString [])
  | skip + 1, _ :: rest => scanText skip rest
  | 0, b :: rest =>
    if mark b = .quote then .ok ([], rest)
    else if b = backslash then
      match readEscape rest with
      | .error fault => .error fault
      | .ok (piece, after) =>
        (scanText (rest.length - after.length) rest).map fun (more, end_) => (piece ++ more, end_)
    else if isControl b then .error (.behind .controlCharacter rest)
    else (scanText 0 rest).map fun (more, end_) => (b :: more, end_)

/-- The fault of a string whose decoded bytes are not UTF-8; `rest` follows its closing quote. -/
def encodingFault (content rest : Bytes) : Fault :=
  let bad := content.drop ((Utf8.defect? content).elim 0 Utf8.Defect.index)
  .read .invalidCodePoint (bad.length + rest.length)

/-- Reads a string after its opening quote. -/
def readText (bytes : Bytes) : Except Fault (String × Bytes) := do
  let (content, rest) ← scanText 0 bytes
  match Utf8.text? content with
  | some s => .ok (s, rest)
  | none => .error (encodingFault content rest)

/-- Reads over a string after its opening quote; the first `skip` bytes belong to an escape. -/
def skipTextFrom : (skip : Nat) → Bytes → Except Fault Bytes
  | _, [] => .error (.behind .unfinishedString [])
  | skip + 1, _ :: rest => skipTextFrom skip rest
  | 0, b :: rest =>
    if mark b = .quote then .ok rest
    else if b = backslash then
      match skipEscape rest with
      | .error fault => .error fault
      | .ok after => skipTextFrom (rest.length - after.length) rest
    else if isControl b then .error (.behind .controlCharacter (b :: rest))
    else skipTextFrom 0 rest

/-- Reads over a string after its opening quote. -/
def skipText : Bytes → Except Fault Bytes := skipTextFrom 0

/-- Reads the key of a member and the colon after it. -/
def readKey : Reader String
  | [] => .error (.ahead .unfinishedValue [])
  | b :: rest =>
    if mark b = .quote then do
      let (key, rest) ← readText rest
      .ok (key, ← readColon rest)
    else .error (.ahead .keyNotString (b :: rest))

/-! ## 3. Writing -/

/-- The two lower-case hexadecimal digits of a control character. -/
def controlDigits (n : Nat) : List Char :=
  [Nat.digitChar (n / 16), Nat.digitChar (n % 16)]

/-- A character as it stands in a written string. -/
def textChar (c : Char) : List Char :=
  if c = '"' then ['\\', '"']
  else if c = '\\' then ['\\', '\\']
  else if 0x20 ≤ c.toNat then [c]
  else if c.toNat = 0x08 then ['\\', 'b']
  else if c.toNat = 0x09 then ['\\', 't']
  else if c.toNat = 0x0A then ['\\', 'n']
  else if c.toNat = 0x0C then ['\\', 'f']
  else if c.toNat = 0x0D then ['\\', 'r']
  else ['\\', 'u', '0', '0'] ++ controlDigits c.toNat

/-- A string between its quotes. -/
def textChars (s : String) : List Char := '"' :: s.toList.flatMap textChar ++ ['"']

end BrokerBridge.Json
