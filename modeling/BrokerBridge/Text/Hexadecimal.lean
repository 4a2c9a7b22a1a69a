/-!
# Hexadecimal digits

The digits of numbers in base sixteen, in either case.
-/
namespace BrokerBridge.Text

/-- The hexadecimal digit that a character is. -/
def hexDigit? (c : Char) : Option Nat :=
  if '0' ≤ c ∧ c ≤ '9' then some (c.toNat - '0'.toNat)
  else if 'a' ≤ c ∧ c ≤ 'f' then some (c.toNat - 'a'.toNat + 10)
  else if 'A' ≤ c ∧ c ≤ 'F' then some (c.toNat - 'A'.toNat + 10)
  else none

end BrokerBridge.Text
