/-!
# Binary64 numbers

A double is not-a-number, an infinity, or a significand below 2 ^ 53 times a power of two.  All of
its arithmetic here goes through one function, `Binary64.ofRatio`, which rounds an exact quotient
to the nearest double, ties to the even significand; reading a decimal, multiplying and dividing
only say which quotient that is.  No machine float takes part.
-/
namespace BrokerBridge

/-- A double.  `finite s m e` is `m * 2 ^ e`, negated when `s` holds; zero keeps its sign. -/
inductive Binary64 where
  | nan
  | infinity (negative : Bool)
  | finite (negative : Bool) (significand : Nat) (exponent : Int)
  deriving DecidableEq, Repr

namespace Binary64

/-! ## 1. Rounding -/

/-- The least exponent of a double. -/
def leastExponent : Int := -1074

/-- The greatest exponent of a double. -/
def greatestExponent : Int := 971

/-- The least significand of a double that is not subnormal: one of 53 bits. -/
def normalBound : Nat := 4503599627370496

/-- What every significand is below. -/
def significandBound : Nat := 9007199254740992

/-- Zero with a sign. -/
def zero (negative : Bool) : Binary64 := .finite negative 0 leastExponent

/-- The quotient of two numbers as a fraction, once both are scaled by `2 ^ (-e)`. -/
def scaled (n d : Nat) (e : Int) : Nat × Nat :=
  if 0 ≤ e then (n, d <<< e.toNat) else (n <<< (-e).toNat, d)

/-- The integer nearest to `n / d`; the even one of two that are equally near. -/
def divNearestEven (n d : Nat) : Nat :=
  let q := n / d
  let r := n % d
  if d < 2 * r ∨ (2 * r = d ∧ q % 2 = 1) then q + 1 else q

/-- The exponent of the double nearest to `n / d`: the one that leaves 53 bits before the point,
and never less than the least. -/
def exponentOf (n d : Nat) : Int :=
  let guess : Int := (Nat.log2 n : Int) - (Nat.log2 d : Int) - 52
  let (a, b) := scaled n d guess
  max leastExponent (if a / b < normalBound then guess - 1 else guess)

/-- The double nearest to `n / d`, ties to the even significand, with overflow to infinity. -/
def ofRatio (negative : Bool) (n d : Nat) : Binary64 :=
  if n = 0 then zero negative
  else
    let e := exponentOf n d
    let (a, b) := scaled n d e
    let m := divNearestEven a b
    let (m, e) := if m = significandBound then (normalBound, e + 1) else (m, e)
    if greatestExponent < e then .infinity negative else .finite negative m e

/-- The double nearest to a natural number. -/
def ofNat (n : Nat) : Binary64 := ofRatio false n 1

/-- The double nearest to `digits * 10 ^ scale`.  Far outside of the range of doubles the answer
is known from the magnitude alone, and the power of ten is not computed. -/
def ofDecimal (negative : Bool) (digits : Nat) (scale : Int) : Binary64 :=
  if digits = 0 then zero negative
  else if 400 < scale then .infinity negative
  else if scale + Nat.log2 digits + 1 < -400 then zero negative
  else if 0 ≤ scale then ofRatio negative (digits * Nat.pow 10 scale.toNat) 1
  else ofRatio negative digits (Nat.pow 10 (-scale).toNat)

/-! ## 2. Arithmetic -/

/-- The magnitude of a finite double as a fraction. -/
def ratio (m : Nat) (e : Int) : Nat × Nat :=
  if 0 ≤ e then (m <<< e.toNat, 1) else (m, 1 <<< (-e).toNat)

/-- The double nearest to the product of two non-negative finite doubles. -/
def times : Binary64 → Binary64 → Binary64
  | .finite s m e, .finite t k f =>
    let (a, b) := ratio m e
    let (c, d) := ratio k f
    ofRatio (s != t) (a * c) (b * d)
  | _, _ => .nan

/-- The double nearest to the quotient of two finite doubles. -/
def dividedBy : Binary64 → Binary64 → Binary64
  | .finite s m e, .finite t k f =>
    let (a, b) := ratio m e
    let (c, d) := ratio k f
    if c = 0 then .nan else ofRatio (s != t) (a * d) (b * c)
  | _, _ => .nan

/-- The same number with the other sign. -/
def negated : Binary64 → Binary64
  | .nan => .nan
  | .infinity s => .infinity (!s)
  | .finite s m e => .finite (!s) m e

/-- Whether a double is a zero of either sign. -/
def isZero : Binary64 → Bool
  | .finite _ m _ => m == 0
  | _ => false

/-- Whether a double is an infinity. -/
def isInfinite : Binary64 → Bool
  | .infinity _ => true
  | _ => false

/-- The natural number nearest to a double, halves away from zero, held within 0 and `most`;
not-a-number counts as zero. -/
def roundWithin (most : Nat) : Binary64 → Nat
  | .nan | .infinity true | .finite true _ _ => 0
  | .infinity false => most
  | .finite false m e =>
    let (a, b) := ratio m e
    min most ((2 * a + b) / (2 * b))

end Binary64

end BrokerBridge
