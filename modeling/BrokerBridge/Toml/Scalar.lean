import BrokerBridge.Toml.Moment
import BrokerBridge.Toml.Table

/-!
# Scalars of TOML documents

A value that does not start with a quote, a bracket or a brace is one word: a truth value, an
integer of 64 bits in one of four bases, a decimal, or a moment, which is kept as its text.
Underscores may stand between the digits of a number.
-/
namespace BrokerBridge.Toml

/-! ## 1. Digits -/

/-- Whether digits and underscores alternate properly: an underscore has a digit on each side. -/
def isGrouped (isDigit : Char → Bool) : (afterDigit : Bool) → List Char → Bool
  | afterDigit, [] => afterDigit
  | afterDigit, c :: rest =>
    if c = '_' then afterDigit && isGrouped isDigit false rest
    else isDigit c && isGrouped isDigit true rest

/-- The digits of a text without the underscores between them. -/
def digits? (isDigit : Char → Bool) (cs : List Char) : Option (List Char) :=
  if isGrouped isDigit false cs then some (cs.filter (· != '_')) else none

/-- The decimal digits of a whole number, which has no zero in front. -/
def wholeDigits? (cs : List Char) : Option (List Char) :=
  (digits? isDigit cs).filter fun ds => ds.head? != some '0' || ds.length == 1

/-- The number that digits write in a base. -/
def inBase (base : Nat) (ds : List Char) : Nat :=
  ds.foldl (fun n c => base * n + (Text.hexDigit? c).getD 0) 0

/-! ## 2. Numbers -/

/-- The number that a text writes in the base that its start names. -/
def based? : List Char → Option Nat
  | '0' :: 'x' :: cs => (digits? (fun c => (Text.hexDigit? c).isSome) cs).map (inBase 16)
  | '0' :: 'o' :: cs => (digits? (fun c => decide ('0' ≤ c ∧ c ≤ '7')) cs).map (inBase 8)
  | '0' :: 'b' :: cs => (digits? (fun c => c == '0' || c == '1') cs).map (inBase 2)
  | _ => none

/-- The integer of any size that a text writes. -/
def integer? (cs : List Char) : Option Int :=
  match based? cs with
  | some n => some n
  | none =>
    match splitSign cs with
    | (negative, ds) => (wholeDigits? ds).map fun ds =>
      if negative then -(inBase 10 ds : Int) else inBase 10 ds

/-- The exponent of a decimal, after its mantissa: nothing, or a letter, a sign and digits. -/
def exponent? : List Char → Option Int
  | [] => some 0
  | c :: cs =>
    if c = 'e' ∨ c = 'E' then
      match splitSign cs with
      | (negative, ds) => (digits? isDigit ds).map fun ds =>
        if negative then -(inBase 10 ds : Int) else inBase 10 ds
    else none

/-- Whether a character may stand in the whole part or the fraction of a decimal. -/
def isDecimalChar (c : Char) : Bool := isDigit c || c == '_'

/-- The finite decimal that a text writes: a fraction, an exponent or both follow its whole part. -/
def finite? (cs : List Char) : Option Binary64 := do
  let (negative, body) := splitSign cs
  let whole ← wholeDigits? (body.takeWhile isDecimalChar)
  let (fraction, rest) ← match body.dropWhile isDecimalChar with
    | '.' :: rest =>
      (digits? isDigit (rest.takeWhile isDecimalChar)).map fun ds =>
        (ds, rest.dropWhile isDecimalChar)
    | rest => some ([], rest)
  let e ← exponent? rest
  let x := Binary64.ofDecimal negative (inBase 10 (whole ++ fraction)) (e - fraction.length)
  if x.isInfinite then none else some x

/-- The decimal that a text writes, which may be an infinity or not a number. -/
def decimal? (cs : List Char) : Option Binary64 :=
  match splitSign cs with
  | (negative, ['i', 'n', 'f']) => some (.infinity negative)
  | (_, ['n', 'a', 'n']) => some .nan
  | _ => finite? cs

/-! ## 3. Words -/

/-- The item that a word writes. -/
def Item.ofWord? (cs : List Char) : Option Item :=
  if cs = ['t', 'r', 'u', 'e'] then some (.boolean true)
  else if cs = ['f', 'a', 'l', 's', 'e'] then some (.boolean false)
  else match integer? cs with
    | some i => if isInteger64 i then some (.integer i) else none
    | none =>
      match decimal? cs with
      | some x => some (.decimal x)
      | none => (moment? cs).map fun m => .text (String.ofList m.chars)

/-- Whether a character may stand in a word. -/
def isWordChar (c : Char) : Bool := c.isAlphanum || c ∈ ['_', '+', '-', '.', ':']

/-- A word, and what follows it; the time of a day may follow it after a blank. -/
def spanWord (cs : List Char) : List Char × List Char :=
  let word := cs.takeWhile isWordChar
  let rest := cs.dropWhile isWordChar
  match readDay word, rest with
  | some (_, []), ' ' :: after =>
    if (after.head?.map isDigit).getD false then
      (word ++ ' ' :: after.takeWhile isWordChar, after.dropWhile isWordChar)
    else (word, rest)
  | _, _ => (word, rest)

/-- Reads a word. -/
def readWord : Reader Item := fun cs =>
  match spanWord cs with
  | (word, rest) => (Item.ofWord? word).map fun item => (item, rest)

end BrokerBridge.Toml
