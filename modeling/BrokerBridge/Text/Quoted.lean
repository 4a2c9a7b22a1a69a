import BrokerBridge.Text.Printable

/-!
# Quoted text

A quoted text stands between double quotes.  A quote and a backslash inside it follow a backslash,
four control characters have escapes of one letter, and every other character that is not
printable is written by its code point in braces.  No character is left out, so the quoted form
tells any two texts apart.
-/
namespace BrokerBridge.Text

/-- The digits of a code point, in lower-case hexadecimal. -/
def hexChars (n : Nat) : List Char := Nat.toDigits 16 n

/-- A character inside quotes. -/
def quotedChar (c : Char) : List Char :=
  if c = '"' then ['\\', '"']
  else if c = '\\' then ['\\', '\\']
  else if c = '\n' then ['\\', 'n']
  else if c = '\r' then ['\\', 'r']
  else if c = '\t' then ['\\', 't']
  else if c = Char.ofNat 0 then ['\\', '0']
  else if isPrintable c then [c]
  else ['\\', 'u', '{'] ++ hexChars c.toNat ++ ['}']

/-- The quoted form of a text. -/
def quoted (s : String) : String :=
  String.ofList ('"' :: s.toList.flatMap quotedChar ++ ['"'])

end BrokerBridge.Text
