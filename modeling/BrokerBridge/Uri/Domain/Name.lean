import BrokerBridge.Uri.Domain.Direction
import BrokerBridge.Uri.Domain.Joining
import BrokerBridge.Uri.Punycode

/-!
# Names of domains

A name is a sequence of labels with dots between them.  `Domain.name?` reads it in its plain form and
refuses it when one of its labels is none.  A label that begins with `xn--` is the encoded form of
another one and must be the form of one that could not stand there as it is, so each domain has one
name.
-/
namespace BrokerBridge.Uri

/-! ## 1. Splitting -/

/-- The parts of a text between the characters that satisfy `p`. -/
def splitAt (p : Char → Bool) : List Char → List (List Char)
  | [] => [[]]
  | c :: cs =>
    if p c then [] :: splitAt p cs
    else match splitAt p cs with
      | [] => [[c]]
      | part :: parts => (c :: part) :: parts

/-- The parts of a name between its dots. -/
def labels (cs : List Char) : List (List Char) := splitAt (· == '.') cs

/-! ## 2. Characters -/

/-- Whether a character may not stand in the name of any scheme. -/
def isForbiddenInName (c : Char) : Bool :=
  c ∈ [Char.ofNat 0, '\t', '\n', '\r', ' ', '#', '/', ':', '<', '>', '?', '@', '[', '\\', ']', '^',
    '|']

/-- Whether a character may not stand in a domain. -/
def isForbiddenInDomain (c : Char) : Bool :=
  isForbiddenInName c || c = '%' || c.toNat < 0x20 || c.toNat = 0x7F

namespace Domain

/-! ## 3. Labels -/

/-- Whether a character is one of ASCII. -/
def isAscii (c : Char) : Bool := decide (c.toNat < 0x80)

/-- How long a label beyond ASCII may be. -/
def longestLabel : Nat := 1000

/-- How long the encoded form of a label may be. -/
def longestEncoded : Nat := 2000

/-- What an encoded label begins with. -/
def encodedMark : List Char := ['x', 'n', '-', '-']

/-- The label that an encoded label stands for, after its mark. -/
def decodeLabel? (encoded : List Char) : Option (List Char) :=
  if longestEncoded < encoded.length then none
  else (Punycode.decode? encoded).filter fun label =>
    !label.all isAscii && isPlain label && !encodedMark.isPrefixOf label

/-- The label that a label of a plain name stands for. -/
def readLabel? (label : List Char) : Option (List Char) :=
  if encodedMark.isPrefixOf label then decodeLabel? (label.drop encodedMark.length)
  else if label.all isAscii || decide (label.length ≤ longestLabel) then some label
  else none

/-- Whether the characters of a label may stand where they do. -/
def isLabel (label : List Char) : Bool :=
  !label.head?.any Text.isMark && joinersStand [] label && !label.any isForbiddenInDomain

/-! ## 4. Names -/

/-- Whether labels make up a name: where one has a character from right to left, each must keep its
direction. -/
def isName (labels : List (List Char)) : Bool :=
  labels.all isLabel && (!labels.any (·.any isLeftward) || labels.all keepsDirection)

/-- The plain form of the name of a domain. -/
def name? (cs : List Char) : Option (List Char) := do
  let plain ← plain? cs
  let read ← (labels plain).mapM readLabel?
  if isName read then some plain else none

end Domain

end BrokerBridge.Uri
