import BrokerBridge.Json.Mark

/-!
# Numbers of JSON text

A number keeps its digits: the whole part, the fraction and the exponent are lists of digits as
they were written, so no number is too long or too great and nothing is rounded.  Only the
spelling of the exponent is settled: a small `e` and a sign always.
-/
namespace BrokerBridge.Json

/-- An exponent: its sign and its digits. -/
structure Exponent where
  negative : Bool
  digits : List Digit
  deriving DecidableEq, Repr

/-- A number by its digits; a number without a fraction has no fraction digits. -/
structure Number where
  negative : Bool
  whole : List Digit
  fraction : List Digit
  exponent : Option Exponent
  deriving DecidableEq, Repr

/-- The natural number that a list of digits writes. -/
def natOf (ds : List Digit) : Nat := ds.foldl (fun n d => 10 * n + d.val) 0

/-- The value of the exponent. -/
def Exponent.value (e : Exponent) : Int :=
  if e.negative then -(natOf e.digits : Int) else natOf e.digits

namespace Number

/-! ## 1. Reading -/

/-- The digits at the start of some bytes, and the rest. -/
def spanDigits : Bytes → List Digit × Bytes
  | [] => ([], [])
  | b :: rest =>
    match byteDigit? b with
    | some d => let (ds, after) := spanDigits rest; (d :: ds, after)
    | none => ([], b :: rest)

/-- Whether some bytes start with a digit. -/
def startsWithDigit : Bytes → Bool
  | [] => false
  | b :: _ => (byteDigit? b).isSome

/-- Reads the whole part: no zero in front of other digits. -/
def readWhole : Reader (List Digit)
  | [] => .error (.behind .unfinishedValue [])
  | b :: rest =>
    match byteDigit? b with
    | none => .error (.behind .invalidNumber rest)
    | some d =>
      if d = 0 then
        if startsWithDigit rest then .error (.ahead .invalidNumber rest) else .ok ([0], rest)
      else let (ds, after) := spanDigits rest; .ok (d :: ds, after)

/-- Reads a fraction, if a point follows. -/
def readFraction : Reader (List Digit)
  | [] => .ok ([], [])
  | b :: rest =>
    if b = 0x2E then
      match spanDigits rest with
      | ([], []) => .error (.ahead .unfinishedValue [])
      | ([], c :: after) => .error (.ahead .invalidNumber (c :: after))
      | (ds, after) => .ok (ds, after)
    else .ok ([], b :: rest)

/-- The sign of an exponent, and what follows it. -/
def exponentSign : Bytes → Bool × Bytes
  | [] => (false, [])
  | b :: rest =>
    if b = 0x2B then (false, rest) else if b = 0x2D then (true, rest) else (false, b :: rest)

/-- Reads an exponent, if its letter follows. -/
def readExponent : Reader (Option Exponent)
  | [] => .ok (none, [])
  | b :: rest =>
    if b = 0x65 ∨ b = 0x45 then
      match exponentSign rest with
      | (_, []) => .error (.behind .unfinishedValue [])
      | (negative, c :: after) =>
        match byteDigit? c with
        | none => .error (.behind .invalidNumber after)
        | some d => let (ds, end_) := spanDigits after; .ok (some ⟨negative, d :: ds⟩, end_)
    else .ok (none, b :: rest)

/-- Reads a number after its sign. -/
def readUnsigned (negative : Bool) (bytes : Bytes) : Except Fault (Number × Bytes) := do
  let (whole, rest) ← readWhole bytes
  let (fraction, rest) ← readFraction rest
  let (exponent, rest) ← readExponent rest
  .ok (⟨negative, whole, fraction, exponent⟩, rest)

/-- Reads a number. -/
def read : Reader Number
  | [] => .error (.ahead .unfinishedValue [])
  | b :: rest => if mark b = .minus then readUnsigned true rest else readUnsigned false (b :: rest)

/-- The fault of a text that must be one number and nothing else: wherever the number goes wrong,
a byte that is still unread is what is wrong. -/
def wholeFault : Fault → Fault
  | .read _ (n + 1) | .met _ (n + 1) => .met .invalidNumber (n + 1)
  | fault => fault

/-- Reads a text that must be one number and nothing else. -/
def readWholeText (text : Bytes) : Except Fault Number :=
  match text with
  | [] => .error (.ahead .unfinishedValue [])
  | b :: _ =>
    if mark b = .minus ∨ mark b = .digit then
      match read text with
      | .ok (n, []) => .ok n
      | .ok (_, rest) => .error (.ahead .invalidNumber rest)
      | .error fault => .error (wholeFault fault)
    else .error (.ahead .invalidNumber text)

/-- Reads a text that is one number and nothing else. -/
def ofText (text : Bytes) : Except ReadError Number :=
  (readWholeText text).mapError (Fault.place text)

/-! ## 2. Values -/

/-- The integer that a number is by its form: no fraction and no exponent. -/
def integer? (n : Number) : Option Int :=
  match n.fraction, n.exponent with
  | [], none => some (if n.negative then -(natOf n.whole : Int) else natOf n.whole)
  | _, _ => none

/-- The double nearest to a number. -/
def toBinary64 (n : Number) : Binary64 :=
  let scale := (n.exponent.map Exponent.value).getD 0
  Binary64.ofDecimal n.negative (natOf (n.whole ++ n.fraction)) (scale - n.fraction.length)

/-! ## 3. Writing -/

/-- The character of a digit. -/
def digitChar (d : Digit) : Char := Nat.digitChar d.val

/-- The characters of an exponent. -/
def exponentChars : Option Exponent → List Char
  | none => []
  | some e => 'e' :: (if e.negative then '-' else '+') :: e.digits.map digitChar

/-- The characters of a fraction. -/
def fractionChars : List Digit → List Char
  | [] => []
  | ds => '.' :: ds.map digitChar

/-- The characters of a number. -/
def chars (n : Number) : List Char :=
  signChars ++ n.whole.map digitChar ++ fractionChars n.fraction ++ exponentChars n.exponent
where
  /-- The characters of the sign. -/
  signChars : List Char := if n.negative then ['-'] else []

end Number

end BrokerBridge.Json
