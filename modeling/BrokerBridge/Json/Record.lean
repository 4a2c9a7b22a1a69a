import BrokerBridge.Json.Skip
import BrokerBridge.Json.Value

/-!
# Records in JSON text

A record is read from an object by the names of its fields, or from an array by their order.  A
`Shape` lists the fields; each `Slot` reads the value of one and stores it in a draft, and
`Shape.finish` makes the record of the draft once all is read.  A field that no slot names is
passed over, and one that comes twice is a fault.

Readers of single values (`readTextAs`, `readFlag`, `readWordSized`) name what they want when
they find something else.
-/
namespace BrokerBridge.Json

/-! ## 1. Single values -/

/-- Hands a value's first byte and what follows it to a reader. -/
def withFirst (read : UInt8 → Bytes → Except Fault (α × Bytes)) : Reader α := fun bytes =>
  match skipBlanks bytes with
  | [] => .error (.ahead .unfinishedValue [])
  | b :: rest => read b rest

/-- Reads a string, which is called `expected`. -/
def readTextAs (expected : String) : Reader String := readExpectedText expected

/-- Reads `true` or `false`. -/
def readFlag : Reader Bool := withFirst fun b rest =>
  match Word.ofFirst? b with
  | some (.boolean flag, tail) => (readWord tail rest).map fun after => (flag, after)
  | _ => .error (wrongType "a boolean" (b :: rest))

/-- Reads a value or `null`. -/
def readNullable (value : Reader α) : Reader (Option α) := withFirst fun b rest =>
  match Word.ofFirst? b with
  | some (.null, tail) => (readWord tail rest).map fun after => (none, after)
  | _ => (value (b :: rest)).map fun (a, after) => (some a, after)

/-! ## 2. Whole numbers -/

/-- The digits of a number as far as they fit into 64 bits: the significand, how many whole digits
came after it was full, and how many fraction digits it took. -/
structure Significand where
  value : Nat := 0
  dropped : Nat := 0
  places : Nat := 0

namespace Significand

/-- Takes digits of the whole part; once one does not fit, the others are only counted. -/
def takeWhole : Significand → List Digit → Significand
  | s, [] => s
  | s, d :: ds =>
    if s.dropped = 0 ∧ s.value * 10 + d.val < wordCount 64 then
      takeWhole { s with value := s.value * 10 + d.val } ds
    else takeWhole { s with dropped := s.dropped + 1 } ds

/-- Takes digits of the fraction until one does not fit. -/
def takeFraction : Significand → List Digit → Significand
  | s, [] => s
  | s, d :: ds =>
    if s.value * 10 + d.val < wordCount 64 then
      takeFraction { s with value := s.value * 10 + d.val, places := s.places + 1 } ds
    else s

end Significand

/-- A power of ten that is a double. -/
def doubleTen (power : Nat) : Binary64 := Binary64.ofDecimal false 1 power

/-- The greatest power of ten that is a double. -/
def greatestTen : Nat := 308

/-- A double times a power of ten, one rounding a step; nothing when that is too great. -/
def scaleTen (x : Binary64) (power : Int) : (fuel : Nat) → Option Binary64
  | 0 => some x
  | fuel + 1 =>
    if power.natAbs ≤ greatestTen then
      if 0 ≤ power then
        let y := x.times (doubleTen power.natAbs)
        if y.isInfinite then none else some y
      else some (x.dividedBy (doubleTen power.natAbs))
    else if x.isZero then some x
    else if 0 ≤ power then none
    else scaleTen (x.dividedBy (doubleTen greatestTen)) (power + greatestTen) fuel

/-- The greatest exponent that is read to its end. -/
def exponentLimit : Nat := wordCount 31 - 1

/-- How many digits of an exponent stand after the one that passes `exponentLimit`. -/
def digitsPastLimit (value : Nat) : List Digit → Option Nat
  | [] => none
  | d :: ds =>
    let value := 10 * value + d.val
    if exponentLimit < value then some ds.length else digitsPastLimit value ds

/-- The number with its sign. -/
def withSign (negative : Bool) (x : Binary64) : Binary64 := if negative then x.negated else x

/-- The double that a number is called by when a whole number is wanted; `rest` is what follows
the number.  A number beyond the doubles is a fault, at the digit that makes it so. -/
def Number.called (n : Number) (rest : Bytes) : Except Fault Binary64 :=
  let s := (({} : Significand).takeWhole n.whole).takeFraction n.fraction
  let scaled (power : Int) : Except Fault Binary64 :=
    match scaleTen (.ofNat s.value) power (power.natAbs / greatestTen + 2) with
    | some x => .ok (withSign n.negative x)
    | none => .error (.behind .numberOutOfRange rest)
  let start : Int := (s.dropped : Int) - s.places
  match n.exponent with
  | none => scaled start
  | some e =>
    match digitsPastLimit 0 e.digits with
    | none =>
      let limit : Int := exponentLimit
      scaled (max (-limit - 1) (min limit (start + e.value)))
    | some unread =>
      if s.value ≠ 0 ∧ e.negative = false then
        .error (.read .numberOutOfRange (rest.length + unread))
      else .ok (.zero n.negative)

/-- Reads a natural number below `2 ^ bits`, which is called `expected`. -/
def readWordSized (bits : Nat) (expected : String) : Reader Nat := withFirst fun b rest =>
  match mark b with
  | .minus | .digit => do
    let (n, rest) ← Number.read (b :: rest)
    let asDouble : Except Fault (Nat × Bytes) := do
      .error (.behind (.wrongType (.float (← n.called rest)) expected) rest)
    match n.integer? with
    | none => asDouble
    | some i =>
      if n.negative then
        if i ≠ 0 ∧ isInteger64 i then
          .error (.behind (.wrongValue (.integer i) expected) rest)
        else asDouble
      else if i.toNat < wordCount bits then .ok (i.toNat, rest)
      else if isWord64 i then .error (.behind (.wrongValue (.integer i) expected) rest)
      else asDouble
  | _ => .error (wrongType expected (b :: rest))

/-- Reads a natural number of 32 bits. -/
def readWord32 : Reader UInt32 := fun bytes =>
  (readWordSized 32 "u32" bytes).map fun (n, rest) => (UInt32.ofNat n, rest)

/-- Reads a natural number of 64 bits. -/
def readWord64 : Reader UInt64 := fun bytes =>
  (readWordSized 64 "u64" bytes).map fun (n, rest) => (UInt64.ofNat n, rest)

/-! ## 3. Lists -/

/-- Reads an array of items. -/
def readList (item : Reader α) : Reader (List α) := withFirst fun b rest =>
  if mark b = .openBracket then brackets.readItems item rest
  else .error (wrongType "a sequence" (b :: rest))

/-! ## 4. Records -/

/-- A field of a record: its name, and how its value is read and stored in a draft. -/
structure Slot (σ : Type) where
  name : String
  read : σ → Reader σ

/-- A slot by a reader of the value and a store of it. -/
def Slot.of (name : String) (value : Reader α) (store : σ → α → σ) : Slot σ where
  name := name
  read draft bytes := (value bytes).map fun (a, rest) => (store draft a, rest)

/-- How a record is read: the name of its type, its slots, the empty draft, and the record of a
full one.  Of a record with `defaults`, an array may leave the last fields out. -/
structure Shape (σ α : Type) where
  name : String
  slots : List (Slot σ)
  start : σ
  finish : σ → Except Cause α
  defaults : Bool := false

namespace Shape

variable {σ α : Type}

/-- What is wanted where the record is to stand. -/
def expectation (shape : Shape σ α) : String := "struct " ++ shape.name

/-- What is wanted of an array that holds the record. -/
def lengthExpectation (shape : Shape σ α) : String :=
  shape.expectation ++ " with " ++ toString shape.slots.length ++
    (if shape.slots.length = 1 then " element" else " elements")

/-- What is left after the white space behind a key and a closing mark, if there is one. -/
def pastClose (bytes : Bytes) : Bytes :=
  match skipBlanks bytes with
  | [] => []
  | b :: rest => if mark b = .closeBrace then rest else b :: rest

/-- Reads one field of an object into the draft; `seen` are the names that have come. -/
def readField (shape : Shape σ α) (seen : List String) (draft : σ) (bytes : Bytes) :
    Except Fault ((List String × σ) × Bytes) :=
  match bytes with
  | [] => .error (.ahead .unfinishedValue [])
  | b :: rest =>
    if mark b = .quote then do
      let (key, rest) ← readText rest
      match shape.slots.find? fun slot => slot.name = key with
      | none =>
        let rest ← skipValue (← readColon rest)
        .ok ((seen, draft), rest)
      | some slot =>
        if key ∈ seen then .error (.behind (.duplicateField key) (pastClose rest))
        else
          let (draft, rest) ← slot.read draft (← readColon rest)
          .ok ((key :: seen, draft), rest)
    else .error (.ahead .keyNotString (b :: rest))

/-- Reads the fields of an object, at most `fuel` of them. -/
def readFields (shape : Shape σ α) :
    (fuel : Nat) → (first : Bool) → List String → σ → Reader σ
  | 0, _, _, _, bytes => .error (.ahead .unfinishedObject bytes)
  | fuel + 1, first, seen, draft, bytes =>
    match braces.turn first bytes with
    | .error fault => .error fault
    | .ok (.close rest) => .ok (draft, rest)
    | .ok (.item start) =>
      match shape.readField seen draft start with
      | .error fault => .error fault
      | .ok ((seen, draft), rest) => shape.readFields fuel false seen draft rest

/-- Reads the end of an array after its last field. -/
def readArrayEnd (bytes : Bytes) : Except Fault Bytes :=
  match skipBlanks bytes with
  | [] => .error (.ahead .unfinishedArray [])
  | b :: rest =>
    if mark b = .closeBracket then .ok rest
    else if mark b = .comma then
      match skipBlanks rest with
      | [] => .error (.ahead .trailingCharacters [])
      | c :: more =>
        if mark c = .closeBracket then .error (.ahead .trailingComma (c :: more))
        else .error (.ahead .trailingCharacters (c :: more))
    else .error (.ahead .trailingCharacters (b :: rest))

/-- Reads the fields of an array in order; `count` of them have been read. -/
def readPlaces (shape : Shape σ α) : (count : Nat) → List (Slot σ) → σ → Reader σ
  | _, [], draft, bytes => (readArrayEnd bytes).map fun rest => (draft, rest)
  | count, slot :: slots, draft, bytes =>
    match brackets.turn (count == 0) bytes with
    | .error fault => .error fault
    | .ok (.close rest) =>
      if shape.defaults then .ok (draft, rest)
      else .error (.behind (.wrongLength count shape.lengthExpectation) rest)
    | .ok (.item start) =>
      match slot.read draft start with
      | .error fault => .error fault
      | .ok (draft, rest) => shape.readPlaces (count + 1) slots draft rest

/-- Reads a record. -/
def read (shape : Shape σ α) : Reader α := withFirst fun b rest => do
  let (draft, after) ←
    if mark b = .openBrace then shape.readFields (rest.length + 1) true [] shape.start rest
    else if mark b = .openBracket then shape.readPlaces 0 shape.slots shape.start rest
    else .error (wrongType shape.expectation (b :: rest))
  match shape.finish draft with
  | .ok a => .ok (a, after)
  | .error cause => .error (.behind cause after)

/-- Reads a text that is a record. -/
def decode (shape : Shape σ α) (text : Bytes) : Except ReadError α :=
  readWholeText shape.read text

end Shape

/-- A field that must have come. -/
def requireField (name : String) : Option α → Except Cause α
  | some a => .ok a
  | none => .error (.missingField name)

end BrokerBridge.Json
