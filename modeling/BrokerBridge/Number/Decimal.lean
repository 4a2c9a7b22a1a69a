import BrokerBridge.Number.Binary64
import BrokerBridge.Number.Word

/-!
# Doubles as decimal text

`Binary64.shortest` finds the fewest digits that read back as the same double, and of these the
ones nearest to it: for 1, 2, ... 17 digits it tests the double's two neighbours on that decimal
grid against the interval of numbers that round to it.  Two layouts write these digits: the plain
one, always positional, and the compact one, which turns to an exponent outside of a range.

`Binary64.ofText?` is the way back: it reads any decimal text with an optional sign, point and
exponent, and the names of the numbers that have no digits.
-/
namespace BrokerBridge

/-! ## 1. Digits -/

/-- The decimal digit that a character is. -/
def digit? (c : Char) : Option Nat :=
  if '0' ≤ c ∧ c ≤ '9' then some (c.toNat - '0'.toNat) else none

/-- The number that a list of decimal digits writes. -/
def ofDigits (ds : List Nat) : Nat := ds.foldl (fun n d => 10 * n + d) 0

/-- Whether a text is a non-empty run of decimal digits. -/
def isNumeral (cs : List Char) : Bool := !cs.isEmpty && cs.all fun c => (digit? c).isSome

/-- The number that a run of decimal digits writes. -/
def numeral? (cs : List Char) : Option Nat :=
  if isNumeral cs then some (ofDigits (cs.filterMap digit?)) else none

/-- Splits off a leading sign; `true` is minus. -/
def splitSign : List Char → Bool × List Char
  | '-' :: cs => (true, cs)
  | '+' :: cs => (false, cs)
  | cs => (false, cs)

/-- The integer that a text writes: digits after an optional sign. -/
def integer? (cs : List Char) : Option Int :=
  match splitSign cs with
  | (negative, ds) => (numeral? ds).map fun n => if negative then -(n : Int) else n

/-- The natural number below `2 ^ bits` that a text writes; a plus sign may stand in front. -/
def unsigned? (bits : Nat) (cs : List Char) : Option Nat :=
  let ds := match cs with
    | '+' :: rest => rest
    | other => other
  (numeral? ds).filter fun n => decide (n < wordCount bits)

namespace Binary64

/-! ## 2. The shortest digits -/

/-- Some digits and the power of ten of the last one. -/
structure Digits where
  digits : Nat
  scale : Int
  deriving DecidableEq, Repr

/-- `10 ^ p` as a fraction. -/
def powerOfTen (p : Int) : Nat × Nat :=
  if 0 ≤ p then (Nat.pow 10 p.toNat, 1) else (1, Nat.pow 10 (-p).toNat)

/-- The greatest `p` with `10 ^ p ≤ n / d`, for a positive quotient. -/
def magnitude (n d : Nat) : Int :=
  let guess : Int := Int.fdiv (((Nat.log2 n : Int) - (Nat.log2 d : Int)) * 30103) 100000
  let reaches (p : Int) : Bool :=
    let (a, b) := powerOfTen p
    decide (a * d ≤ n * b)
  if reaches (guess + 1) then guess + 1
  else if reaches guess then guess
  else guess - 1

/-- The interval of the numbers that round to `m * 2 ^ e`, as quarters of its unit: the lower end,
the number itself and the upper end, over one denominator.  Below a power of two the neighbours
stand twice as close. -/
def interval (m : Nat) (e : Int) : Nat × Nat × Nat × Nat :=
  let low := if m = normalBound ∧ leastExponent < e then 4 * m - 1 else 4 * m - 2
  let unit (q : Nat) : Nat := if 2 ≤ e then q <<< (e - 2).toNat else q
  (unit low, unit (4 * m), unit (4 * m + 2), if 2 ≤ e then 1 else 1 <<< (2 - e).toNat)

/-- The nearest of the grid points that are multiples of `10 ^ p` and round to `m * 2 ^ e`. -/
def nearestOnGrid (m : Nat) (e : Int) (p : Int) : Option Digits :=
  let (low, mid, high, d) := interval m e
  let (a, b) := powerOfTen p
  let step := a * d
  let q := mid * b / step
  let closed := m % 2 = 0
  let holds (k : Nat) : Bool :=
    if closed then decide (low * b ≤ k * step ∧ k * step ≤ high * b)
    else decide (low * b < k * step ∧ k * step < high * b)
  let below := mid * b - q * step
  let above := (q + 1) * step - mid * b
  match holds q && q != 0, holds (q + 1) with
  | true, true => some ⟨if above < below then q + 1 else q, p⟩
  | true, false => some ⟨q, p⟩
  | false, true => some ⟨q + 1, p⟩
  | false, false => none

/-- The digits without the zeros at their end. -/
def Digits.trim : (fuel : Nat) → Digits → Digits
  | 0, ds => ds
  | fuel + 1, ⟨n, p⟩ => if n ≠ 0 ∧ n % 10 = 0 then trim fuel ⟨n / 10, p + 1⟩ else ⟨n, p⟩

/-- The fewest digits that read back as `m * 2 ^ e`, and of these the nearest. -/
def shortest (m : Nat) (e : Int) : Digits :=
  let (n, d) := ratio m e
  let top := magnitude n d
  let found := (List.range 17).findSome? fun k => nearestOnGrid m e (top - Int.ofNat k)
  (found.getD ⟨n / d, 0⟩).trim 20

/-! ## 3. Layouts -/

/-- The characters of a natural number. -/
def numeralChars (n : Nat) : List Char := Nat.toDigits 10 n

/-- Digits written out with every zero: no exponent, and a point only before a fraction. -/
def Digits.positional (ds : Digits) : List Char :=
  let cs := numeralChars ds.digits
  if 0 ≤ ds.scale then cs ++ List.replicate ds.scale.toNat '0'
  else
    let places := (-ds.scale).toNat
    if places < cs.length then
      cs.take (cs.length - places) ++ '.' :: cs.drop (cs.length - places)
    else '0' :: '.' :: (List.replicate (places - cs.length) '0' ++ cs)

/-- The characters of a sign. -/
def signChars (negative : Bool) : List Char := if negative then ['-'] else []

/-- The plain layout: always positional, without a point for a whole number. -/
def plainText : Binary64 → String
  | .nan => "NaN"
  | .infinity s => String.ofList (signChars s ++ "inf".toList)
  | .finite s 0 _ => String.ofList (signChars s ++ ['0'])
  | .finite s m e => String.ofList (signChars s ++ (shortest m e).positional)

/-- Digits with an exponent: one digit before the point, and the exponent's sign always. -/
def Digits.exponential (ds : Digits) : List Char :=
  let cs := numeralChars ds.digits
  let power := ds.scale + cs.length - 1
  let point := if cs.length = 1 then [] else ['.']
  cs.take 1 ++ point ++ cs.drop 1 ++ ['e', if power < 0 then '-' else '+'] ++
    numeralChars power.natAbs

/-- The compact layout: positional with a fraction from `10 ^ -5` to below `10 ^ 16`, with an
exponent elsewhere. -/
def compactText : Binary64 → String
  | .nan => "NaN"
  | .infinity s => String.ofList (signChars s ++ "inf".toList)
  | .finite s 0 _ => String.ofList (signChars s ++ "0.0".toList)
  | .finite s m e =>
    let ds := shortest m e
    let power := ds.scale + (numeralChars ds.digits).length - 1
    let body :=
      if -5 ≤ power ∧ power ≤ 15 then
        if 0 ≤ ds.scale then ds.positional ++ ".0".toList else ds.positional
      else ds.exponential
    String.ofList (signChars s ++ body)

/-! ## 4. Reading -/

/-- The characters up to the first one that fails `p`, and the rest. -/
def spanChars (p : Char → Bool) (cs : List Char) : List Char × List Char :=
  (cs.takeWhile p, cs.dropWhile p)

/-- The exponent of a decimal, after its mantissa: nothing, or `e`, a sign and digits. -/
def exponent? : List Char → Option Int
  | [] => some 0
  | c :: cs => if c = 'e' ∨ c = 'E' then integer? cs else none

/-- The double nearest to an unsigned decimal text. -/
def unsignedOfText? (negative : Bool) (cs : List Char) : Option Binary64 :=
  let isDigit (c : Char) : Bool := (digit? c).isSome
  let (whole, rest) := spanChars isDigit cs
  let (fraction, rest) := match rest with
    | '.' :: r => spanChars isDigit r
    | r => ([], r)
  if whole.isEmpty && fraction.isEmpty then none
  else do
    let e ← exponent? rest
    pure (ofDecimal negative (ofDigits ((whole ++ fraction).filterMap digit?))
      (e - fraction.length))

/-- Reads a double: a decimal with an optional sign, point and exponent, with digits on at least
one side of the point, or `inf`, `infinity` or `nan` in any case. -/
def ofText? (text : String) : Option Binary64 :=
  let (negative, cs) := splitSign text.toList
  let name := String.ofList (cs.map Char.toLower)
  if name = "nan" then some .nan
  else if name = "inf" ∨ name = "infinity" then some (.infinity negative)
  else unsignedOfText? negative cs

end Binary64

end BrokerBridge
