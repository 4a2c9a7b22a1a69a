import BrokerBridge.Text.Lowercase
import BrokerBridge.Text.Normal
import BrokerBridge.Text.Printable
import BrokerBridge.Uri.Domain.Form

/-!
# Characters of domains

Every character of a domain is read in lower case and in its plainest form, some characters count
for nothing, and some must not occur.  `Domain.plain?` reads a whole domain so, and a text that it
leaves as it is (`Domain.isPlain`) needs no more reading.
-/
namespace BrokerBridge.Uri.Domain

/-- The characters that count for nothing. -/
def ignoredRanges : List (Nat × Nat) := [
  (0xAD, 0xAD), (0x34F, 0x34F), (0x115F, 0x1160), (0x17B4, 0x17B5), (0x180B, 0x180F),
  (0x200B, 0x200B), (0x2060, 0x2064), (0x206A, 0x206F), (0x3164, 0x3164), (0xFE00, 0xFE0F),
  (0xFEFF, 0xFEFF), (0xFFA0, 0xFFA0), (0x1BCA0, 0x1BCA3), (0x1D173, 0x1D17A), (0xE0100, 0xE01EF)]

/-- The characters that must not occur although they have a shape. -/
def refusedRanges : List (Nat × Nat) := [
  (0x2024, 0x2026), (0x2488, 0x249B), (0x2FF0, 0x2FFF), (0x31EF, 0x31EF), (0x33C2, 0x33C2),
  (0x33C7, 0x33C7), (0x33D8, 0x33D8), (0xFE12, 0xFE12), (0xFE19, 0xFE19), (0xFE30, 0xFE30),
  (0xFE52, 0xFE52), (0xFFFC, 0xFFFD), (0x1F100, 0x1F100)]

/-- The capital letters that are the plain form, and not the small ones. -/
def keptRanges : List (Nat × Nat) := [
  (0x13A0, 0x13F5)]

/-- The character that keeps its neighbours from joining. -/
def nonJoiner : Char := Char.ofNat 0x200C

/-- The character that makes its neighbours join. -/
def joiner : Char := Char.ofNat 0x200D

/-- What a character that is only a form of others stands for. -/
def form? (n : Nat) : Option (List Nat) :=
  match variants.find? fun run => decide (run.1 ≤ n ∧ n ≤ run.2.1) with
  | some run => some [run.2.2 + (n - run.1)]
  | none => spelledOut.lookup n

/-- What a character is read as; nothing is known of one that must not occur. -/
def readChar? (c : Char) : Option (List Char) :=
  if c.toNat < 0x80 then some [c.toLower]
  else match form? c.toNat with
    | some ns => some (ns.map Char.ofNat)
    | none =>
      if Text.inRanges ignoredRanges c.toNat then some []
      else if c = nonJoiner ∨ c = joiner then some [c]
      else if Text.inRanges Text.shapelessRanges c.toNat || Text.inRanges refusedRanges c.toNat then
        none
      else if Text.inRanges keptRanges c.toNat then some [c]
      else some (Text.lowerForm c)

/-- What the characters of a domain are read as, in normal form. -/
def plain? (cs : List Char) : Option (List Char) :=
  (cs.mapM readChar?).map fun pieces => Text.normal pieces.flatten

/-- Whether a text is read as it stands. -/
def isPlain (cs : List Char) : Bool :=
  cs.all (fun c => readChar? c == some [c]) && Text.normal cs == cs

end BrokerBridge.Uri.Domain
