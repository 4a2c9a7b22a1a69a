import BrokerBridge.Text.Utf8

/-!
# Percent encoding

In a URL a byte may be written as a percent sign and two hexadecimal digits.  A percent sign
without two digits after it stands for itself, so every text has a decoding (`percentDecode`).
What is decoded need not be UTF-8: `decodeText` refuses it then and says where, while the text of
a form (`decodeForm`), where a plus is a space, puts U+FFFD in its place.
-/
namespace BrokerBridge.Uri

/-- The value of a hexadecimal digit. -/
def hexDigit? (b : UInt8) : Option UInt8 :=
  if 0x30 ≤ b ∧ b ≤ 0x39 then some (b - 0x30)
  else if 0x41 ≤ b ∧ b ≤ 0x46 then some (b - 0x41 + 10)
  else if 0x61 ≤ b ∧ b ≤ 0x66 then some (b - 0x61 + 10)
  else none

/-- The byte that two hexadecimal digits write. -/
def hexByte? (a b : UInt8) : Option UInt8 := do pure ((← hexDigit? a) * 16 + (← hexDigit? b))

/-- The byte written after a percent sign. -/
def escaped? : Bytes → Option UInt8
  | a :: b :: _ => hexByte? a b
  | _ => none

/-- The bytes of a percent-encoded text; the first `skip` belong to an escape. -/
def percentDecodeFrom : (skip : Nat) → Bytes → Bytes
  | _, [] => []
  | skip + 1, _ :: rest => percentDecodeFrom skip rest
  | 0, b :: rest =>
    if b = 0x25 then
      match escaped? rest with
      | some c => c :: percentDecodeFrom 2 rest
      | none => b :: percentDecodeFrom 0 rest
    else b :: percentDecodeFrom 0 rest

/-- The bytes of a percent-encoded text. -/
def percentDecode (bytes : Bytes) : Bytes := percentDecodeFrom 0 bytes

/-- Why bytes are no text, in words. -/
def defectMessage (d : Utf8.Defect) : String :=
  match d.length with
  | some n =>
    "invalid utf-8 sequence of " ++ toString n ++ " bytes from index " ++ toString d.index
  | none => "incomplete utf-8 byte sequence from index " ++ toString d.index

/-- The text of a percent-encoded text. -/
def decodeText (cs : List Char) : Except Utf8.Defect String :=
  let bytes := percentDecode (Utf8.encode cs)
  match Utf8.defect? bytes with
  | some d => .error d
  | none => .ok (Utf8.lossy bytes)

/-- The text of a name or a value in a query. -/
def decodeForm (cs : List Char) : String :=
  Utf8.lossy (percentDecode (Utf8.encode (cs.map fun c => if c = '+' then ' ' else c)))

end BrokerBridge.Uri
