import BrokerBridge.Number.Word

/-!
# Punycode

A label of a domain name that begins with `xn--` writes characters beyond ASCII with ASCII
characters.  `Punycode.decode?` reads what follows that mark: the ASCII characters up to the last
hyphen as they are, and after it the others as distances, in digits of base 36 whose weights adapt
to what was read.  Without ASCII characters there is no hyphen.  It refuses what is no such text.
-/
namespace BrokerBridge.Uri.Punycode

/-- The value of a digit. -/
def digit? (c : Char) : Option Nat :=
  if 'a' ≤ c ∧ c ≤ 'z' then some (c.toNat - 'a'.toNat)
  else if 'A' ≤ c ∧ c ≤ 'Z' then some (c.toNat - 'A'.toNat)
  else if '0' ≤ c ∧ c ≤ '9' then some (c.toNat - '0'.toNat + 26)
  else none

/-- The least digit that ends a number, for the digit of weight number `k`. -/
def threshold (k bias : Nat) : Nat :=
  if k ≤ bias then 1 else if bias + 26 ≤ k then 26 else k - bias

/-- Scales a distance down until it is small; `k` counts the steps. -/
def settle : (fuel : Nat) → (delta k : Nat) → Nat
  | 0, delta, k => k + 36 * delta / (delta + 38)
  | fuel + 1, delta, k =>
    if 455 < delta then settle fuel (delta / 35) (k + 36) else k + 36 * delta / (delta + 38)

/-- The bias after a distance, of `points` characters read. -/
def adapt (delta points : Nat) (first : Bool) : Nat :=
  let delta := if first then delta / 700 else delta / 2
  settle delta (delta + delta / points) 0

/-- Reads a distance: its value, and the characters after it. -/
def readDelta (bias : Nat) : (k weight value : Nat) → List Char → Option (Nat × List Char)
  | _, _, _, [] => none
  | k, weight, value, c :: rest => do
    let d ← digit? c
    let value := value + d * weight
    let t := threshold k bias
    if value ≥ wordCount 32 then none
    else if d < t then some (value, rest)
    else readDelta bias (k + 36) (weight * (36 - t)) value rest

/-- Whether a number is the code point of a character. -/
def isCodePoint (n : Nat) : Bool := n < 0xD800 || (0xDFFF < n && n < 0x110000)

/-- Puts characters into what was read, by their distances. -/
def insertAll : (fuel : Nat) → (code index bias : Nat) → (output rest : List Char) →
    Option (List Char)
  | _, _, _, _, output, [] => some output
  | 0, _, _, _, _, _ :: _ => none
  | fuel + 1, code, index, bias, output, c :: rest => do
    let (delta, rest) ← readDelta bias 36 1 0 (c :: rest)
    let points := output.length + 1
    let position := index + delta
    let code := code + position / points
    let at_ := position % points
    if isCodePoint code then
      insertAll fuel code (at_ + 1) (adapt delta points (index == 0))
        (output.insertIdx at_ (Char.ofNat code)) rest
    else none

/-- The characters of a label after its mark. -/
def decode? (cs : List Char) : Option (List Char) :=
  let reversed := cs.reverse
  let tail := (reversed.takeWhile (· ≠ '-')).reverse
  let base := ((reversed.dropWhile (· ≠ '-')).drop 1).reverse
  if base = [] ∧ '-' ∈ cs then none
  else if base.all fun c => c.toNat < 0x80 then insertAll tail.length 128 0 72 base tail
  else none

end BrokerBridge.Uri.Punycode
