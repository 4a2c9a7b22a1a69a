import BrokerBridge.Number.Decimal
import BrokerBridge.Uri.Domain.Name
import BrokerBridge.Uri.Percent

/-!
# Hosts

The host of a URL is an address of one of two kinds, or a name.  Schemes that the web knows read a
name as a domain: it is decoded and put in its plain form, it must not hold characters that mean
something else in a URL, and one that ends in a number must be an address (`Host.ofDomain`).  All
other schemes take a name as it is, but for a few characters (`Host.ofOpaque`).
-/
namespace BrokerBridge.Uri

/-- Why a text is no URL. -/
inductive UrlFault where
  | emptyHost
  | invalidDomainName
  | invalidPort
  | invalidIpv4
  | invalidIpv6
  | invalidDomainCharacter
  | relative
  deriving DecidableEq, Repr

/-- A fault in words. -/
def UrlFault.message : UrlFault → String
  | .emptyHost => "empty host"
  | .invalidDomainName => "invalid international domain name"
  | .invalidPort => "invalid port number"
  | .invalidIpv4 => "invalid IPv4 address"
  | .invalidIpv6 => "invalid IPv6 address"
  | .invalidDomainCharacter => "invalid domain character"
  | .relative => "relative URL without a base"

/-- A host. -/
inductive Host where
  | name (cs : List Char)
  | ipv4 (address : Nat)
  | ipv6 (pieces : List Nat)
  deriving DecidableEq, Repr

/-! ## 1. Addresses of version 4 -/

/-- The value of a digit of a base up to 16. -/
def baseDigit? (base : Nat) (c : Char) : Option Nat :=
  let value := if '0' ≤ c ∧ c ≤ '9' then some (c.toNat - '0'.toNat)
    else if 'a' ≤ c ∧ c ≤ 'f' then some (c.toNat - 'a'.toNat + 10)
    else if 'A' ≤ c ∧ c ≤ 'F' then some (c.toNat - 'A'.toNat + 10)
    else none
  value.filter (· < base)

/-- The number that digits of a base write; no digits write zero. -/
def ofBase? (base : Nat) (cs : List Char) : Option Nat := do
  pure ((← cs.mapM (baseDigit? base)).foldl (fun n d => n * base + d) 0)

/-- The number that a part of an address writes: hexadecimal after `0x`, octal after a zero. -/
def addressPart? : List Char → Option Nat
  | [] => none
  | '0' :: 'x' :: cs | '0' :: 'X' :: cs => ofBase? 16 cs
  | '0' :: c :: cs => ofBase? 8 (c :: cs)
  | cs => ofBase? 10 cs

/-- The labels of a name without an empty last one. -/
def properLabels (cs : List Char) : List (List Char) :=
  match (labels cs).reverse with
  | [] :: rest => rest.reverse
  | parts => parts.reverse

/-- Whether a name ends in a number and so must be an address. -/
def endsInNumber (cs : List Char) : Bool :=
  match (properLabels cs).getLast? with
  | none => false
  | some last => isNumeral last || (addressPart? last).isSome

/-- The address of its parts: all but the last are bytes, and the last fills what is left. -/
def ipv4OfParts? (parts : List Nat) : Option Nat :=
  match parts.reverse with
  | [] => none
  | last :: front =>
    if 3 < front.length then none
    else if wordCount (32 - 8 * front.length) ≤ last then none
    else if front.any (255 < ·) then none
    else
      let high := front.reverse.foldl (fun n b => n * 256 + b) 0
      some (high * wordCount (32 - 8 * front.length) + last)

/-- The address that a name is. -/
def ipv4? (cs : List Char) : Option Nat :=
  let parts := properLabels cs
  if 4 < parts.length then none else (parts.mapM addressPart?).bind ipv4OfParts?

/-! ## 2. Addresses of version 6 -/

/-- The pieces read so far, in reverse, and how many stood before the gap, if there was one. -/
structure Pieces where
  reversed : List Nat := []
  gap : Option Nat := none

/-- Fills the gap with zeros; without one there must be eight pieces. -/
def Pieces.finish (p : Pieces) : Option (List Nat) :=
  let pieces := p.reversed.reverse
  match p.gap with
  | none => if pieces.length = 8 then some pieces else none
  | some k =>
    if pieces.length ≤ 7 then
      some (pieces.take k ++ List.replicate (8 - pieces.length) 0 ++ pieces.drop k)
    else none

/-- A byte in decimal, without a zero in front of other digits. -/
def decimalByte? (cs : List Char) : Option Nat :=
  match cs with
  | '0' :: _ :: _ => none
  | cs => (numeral? cs).filter (· ≤ 255)

/-- The last two pieces, written as an address of version 4. -/
def embeddedIpv4? (cs : List Char) : Option (Nat × Nat) :=
  match (labels cs).mapM decimalByte? with
  | some [a, b, c, d] => some (a * 256 + b, c * 256 + d)
  | _ => none

/-- Reads pieces and the gap, at most `fuel` of them.  The eighth piece is the last one. -/
def readPieces : (fuel : Nat) → Pieces → List Char → Option Pieces
  | _, p, [] => some p
  | 0, _, _ :: _ => none
  | fuel + 1, p, c :: rest =>
    let count := p.reversed.length + (if p.gap.isSome then 1 else 0)
    if 8 ≤ count then none
    else if c = ':' then
      if p.gap.isSome then none
      else readPieces fuel { p with gap := some p.reversed.length } rest
    else
      let digits := ((c :: rest).take 4).takeWhile fun d => (baseDigit? 16 d).isSome
      let value := (ofBase? 16 digits).getD 0
      match (c :: rest).drop digits.length with
      | [] => some { p with reversed := value :: p.reversed }
      | ':' :: [] => none
      | ':' :: more => readPieces fuel { p with reversed := value :: p.reversed } more
      | '.' :: _ =>
        if digits.isEmpty ∨ 6 < count then none
        else (embeddedIpv4? (c :: rest)).map fun (a, b) =>
          { p with reversed := b :: a :: p.reversed }
      | _ => none

/-- The address between brackets. -/
def ipv6? (cs : List Char) : Option (List Nat) :=
  match cs with
  | [] | [_] => none
  | ':' :: ':' :: rest => (readPieces rest.length { gap := some 0 } rest).bind Pieces.finish
  | ':' :: _ => none
  | cs => (readPieces cs.length {} cs).bind Pieces.finish

/-- The place and length of the longest run of at least two zeros, the first of equal ones. -/
def longestZeros (pieces : List Nat) : Option (Nat × Nat) :=
  let runAt (i : Nat) : Nat := ((pieces.drop i).takeWhile (· == 0)).length
  (List.range 8).foldl (fun best i =>
    let n := runAt i
    let least := (best.map Prod.snd).getD 1
    if least < n then some (i, n) else best) none

/-- A piece in hexadecimal. -/
def pieceChars (n : Nat) : List Char := Nat.toDigits 16 n

/-- Pieces with colons between them. -/
def piecesChars (pieces : List Nat) : List Char :=
  [':'].intercalate (pieces.map pieceChars)

/-- The characters of an address of version 6, its longest run of zeros left out. -/
def ipv6Chars (pieces : List Nat) : List Char :=
  match longestZeros pieces with
  | none => piecesChars pieces
  | some (i, n) =>
    piecesChars (pieces.take i) ++ [':', ':'] ++ piecesChars (pieces.drop (i + n))

/-! ## 3. Names -/

/-- A host between brackets. -/
def Host.ofBracketed (cs : List Char) : Except UrlFault Host :=
  match cs.getLast? with
  | some ']' =>
    match ipv6? ((cs.drop 1).dropLast) with
    | some pieces => .ok (.ipv6 pieces)
    | none => .error .invalidIpv6
  | _ => .error .invalidIpv6

/-- A character as a name shows it: controls and what is not ASCII are percent-encoded. -/
def shownChar (c : Char) : List Char :=
  if 0x20 ≤ c.toNat ∧ c.toNat < 0x7F then [c]
  else (Utf8.encode [c]).flatMap fun b =>
    ['%', (Nat.digitChar (b.toNat / 16)).toUpper, (Nat.digitChar (b.toNat % 16)).toUpper]

/-- The host of a scheme that takes names as they are. -/
def Host.ofOpaque (cs : List Char) : Except UrlFault Host :=
  if cs.head? = some '[' then Host.ofBracketed cs
  else if cs.any isForbiddenInName then .error .invalidDomainCharacter
  else .ok (.name (cs.flatMap shownChar))

/-- The characters of a domain, when it is one. -/
def domain? (cs : List Char) : Option (List Char) :=
  (Utf8.decode? (percentDecode (Utf8.encode cs))).bind Domain.name?

/-- The host of a scheme that reads names as domains. -/
def Host.ofDomain (cs : List Char) : Except UrlFault Host :=
  if cs.head? = some '[' then Host.ofBracketed cs
  else match domain? cs with
    | none => .error .invalidDomainName
    | some domain =>
      if domain.isEmpty then .error .emptyHost
      else if endsInNumber domain then
        match ipv4? domain with
        | some address => .ok (.ipv4 address)
        | none => .error .invalidIpv4
      else .ok (.name domain)

/-- The text of a host. -/
def Host.text : Host → String
  | .name cs => String.ofList cs
  | .ipv4 a =>
    String.ofList <| ['.'].intercalate <|
      [a / wordCount 24, a / wordCount 16 % 256, a / wordCount 8 % 256, a % 256].map
        (Nat.toDigits 10)
  | .ipv6 pieces => String.ofList ('[' :: ipv6Chars pieces ++ [']'])

end BrokerBridge.Uri
