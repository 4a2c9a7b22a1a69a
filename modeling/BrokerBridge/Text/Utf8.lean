/-!
# UTF-8

A byte sequence is cut into chunks from left to right: a chunk is a character, or the longest
ill-formed run that could still have begun one, or such a run cut short by the end.  Every reading
of bytes as text is a reading of the chunks:

* `Utf8.decode?` asks that every chunk is a character;
* `Utf8.lossy` puts U+FFFD for each chunk that is none;
* `Utf8.defect?` names the first of them by its place and length.

`Utf8.encode` is the way back.
-/
namespace BrokerBridge

/-- A byte sequence: the body of a message, the content of a file. -/
abbrev Bytes := List UInt8

namespace Utf8

/-! ## 1. Chunks -/

/-- One step of reading bytes as text. -/
inductive Chunk where
  /-- A character, and the number of bytes after its first. -/
  | char (c : Char) (tail : Nat)
  /-- An ill-formed run of `tail + 1` bytes, which the next byte rules out. -/
  | illFormed (tail : Nat)
  /-- The start of a character, of `tail + 1` bytes, where the bytes end. -/
  | cut (tail : Nat)
  deriving DecidableEq, Repr

/-- The number of bytes after a chunk's first. -/
def Chunk.tail : Chunk → Nat
  | .char _ n | .illFormed n | .cut n => n

/-- What a first byte promises: how many bytes follow, the range of the first of these, and the
bits it brings itself. -/
structure Lead where
  tail : Nat
  least : UInt8
  most : UInt8
  bits : Nat

/-- The lead bytes of characters beyond ASCII.  The narrowed ranges after E0, ED, F0 and F4 shut
out overlong forms, surrogates and what lies beyond U+10FFFF. -/
def Lead.ofByte? (b : UInt8) : Option Lead :=
  if b < 0xC2 then none
  else if b < 0xE0 then some ⟨1, 0x80, 0xBF, b.toNat - 0xC0⟩
  else if b < 0xF0 then
    some ⟨2, if b = 0xE0 then 0xA0 else 0x80, if b = 0xED then 0x9F else 0xBF, b.toNat - 0xE0⟩
  else if b < 0xF5 then
    some ⟨3, if b = 0xF0 then 0x90 else 0x80, if b = 0xF4 then 0x8F else 0xBF, b.toNat - 0xF0⟩
  else none

/-- Reads the `n` bytes after a lead byte, the first of them in the given range.  `taken` of them
are read already, and `code` holds the bits so far. -/
def readTail : (n : Nat) → (least most : UInt8) → (taken code : Nat) → Bytes → Chunk
  | 0, _, _, taken, code, _ => .char (Char.ofNat code) taken
  | _ + 1, _, _, taken, _, [] => .cut taken
  | n + 1, least, most, taken, code, b :: rest =>
    if least ≤ b ∧ b ≤ most then
      readTail n 0x80 0xBF (taken + 1) (code * 64 + (b.toNat - 0x80)) rest
    else .illFormed taken

/-- The chunk that starts with byte `b`. -/
def firstChunk (b : UInt8) (rest : Bytes) : Chunk :=
  if b < 0x80 then .char (Char.ofNat b.toNat) 0
  else match Lead.ofByte? b with
    | none => .illFormed 0
    | some lead => readTail lead.tail lead.least lead.most 0 lead.bits rest

/-- The chunks of the bytes after the first `skip`, which belong to a chunk already read. -/
def chunksFrom : (skip : Nat) → Bytes → List Chunk
  | _, [] => []
  | skip + 1, _ :: rest => chunksFrom skip rest
  | 0, b :: rest => firstChunk b rest :: chunksFrom (firstChunk b rest).tail rest

/-- The chunks of a byte sequence. -/
def chunks (bytes : Bytes) : List Chunk := chunksFrom 0 bytes

/-! ## 2. Bytes as text -/

/-- The characters of the bytes, when they are UTF-8. -/
def decode? (bytes : Bytes) : Option (List Char) :=
  (chunks bytes).mapM fun
    | .char c _ => some c
    | _ => none

/-- The text of the bytes, when they are UTF-8. -/
def text? (bytes : Bytes) : Option String := (decode? bytes).map String.ofList

/-- The text of any bytes: U+FFFD stands for each chunk that is no character. -/
def lossy (bytes : Bytes) : String :=
  String.ofList ((chunks bytes).map fun
    | .char c _ => c
    | _ => Char.ofNat 0xFFFD)

/-- The first chunk that is no character: the index of its first byte and its length, which is
unknown when the bytes end in it. -/
structure Defect where
  index : Nat
  length : Option Nat
  deriving DecidableEq, Repr

/-- The first defect of a list of chunks that starts at `index`. -/
def defectFrom (index : Nat) : List Chunk → Option Defect
  | [] => none
  | .char _ n :: rest => defectFrom (index + n + 1) rest
  | .illFormed n :: _ => some ⟨index, some (n + 1)⟩
  | .cut _ :: _ => some ⟨index, none⟩

/-- Why the bytes are not UTF-8, if they are not. -/
def defect? (bytes : Bytes) : Option Defect := defectFrom 0 (chunks bytes)

/-! ## 3. Text as bytes -/

/-- The bytes of a text. -/
def encode (cs : List Char) : Bytes := cs.flatMap String.utf8EncodeChar

@[simp] theorem encode_nil : encode [] = [] := rfl

@[simp] theorem encode_cons (c : Char) (cs : List Char) :
    encode (c :: cs) = String.utf8EncodeChar c ++ encode cs := rfl

@[simp] theorem encode_append (cs ds : List Char) : encode (cs ++ ds) = encode cs ++ encode ds := by
  simp [encode]

/-- The bytes of a string. -/
def ofString (s : String) : Bytes := encode s.toList

end Utf8

end BrokerBridge
