/-!
# Words

The ranges of machine words: natural numbers below a power of two, and signed integers of 64 bits.
-/
namespace BrokerBridge

/-- How many words of so many bits there are. -/
def wordCount (bits : Nat) : Nat := 1 <<< bits

/-- Whether an integer is a word of 64 bits. -/
def isWord64 (i : Int) : Bool := decide (0 ≤ i ∧ i < 18446744073709551616)

/-- Whether an integer is a signed one of 64 bits. -/
def isInteger64 (i : Int) : Bool :=
  decide (-9223372036854775808 ≤ i ∧ i < 9223372036854775808)

end BrokerBridge
