import BrokerBridge.Toml.Scalar

/-!
# TOML documents

`Toml.read` reads a document into its top table.  It cuts the text into blocks by the grammar, and
`Toml.ofBlocks` joins the blocks by the rules for definitions.  Line ends and comments may stand
between all parts inside brackets and braces alike, and a comma may stand before the closing.
-/
namespace BrokerBridge.Toml

/-! ## 1. Values -/

/-- Reads items after an opening, with commas between them, up to the closing; `fuel` bounds their
number. -/
def readItems (item : Reader α) (closing : Char) : (fuel : Nat) → Reader (List α)
  | 0, _ => none
  | fuel + 1, cs => do
    match ← skipLines false cs with
    | [] => none
    | c :: rest =>
      if c = closing then some ([], rest)
      else
        let (first, after) ← item (c :: rest)
        match ← skipLines false after with
        | [] => none
        | d :: left =>
          if d = closing then some ([first], left)
          else if d = ',' then
            let (items, left) ← readItems item closing fuel left
            some (first :: items, left)
          else none

/-- Reads a dotted key and its value; `skip` passes what may stand around the equals sign. -/
def readDefinition (skip : List Char → Option (List Char)) (value : Reader Item) :
    Reader Definition := fun cs => do
  let ((path, key), rest) ← readPath cs
  let rest ← readMark '=' (← skip rest)
  let (item, rest) ← value (← skip rest)
  some (⟨path, key, item⟩, rest)

/-- Reads a value with at most `depth` brackets and braces open at a time. -/
def readValue (depth : Nat) : Reader Item
  | [] => none
  | c :: rest =>
    if c = '"' ∨ c = '\'' then
      (readString (c :: rest)).map fun (s, after) => (.text s, after)
    else if c = '[' then
      match depth with
      | 0 => none
      | depth + 1 =>
        (readItems (readValue depth) ']' (rest.length + 1) rest).map fun (items, after) =>
          (.array items, after)
    else if c = '{' then
      match depth with
      | 0 => none
      | depth + 1 => do
        let (definitions, after) ←
          readItems (readDefinition (skipLines false) (readValue depth)) '}' (rest.length + 1) rest
        some (.table .closed (← defineAll definitions []), after)
    else readWord (c :: rest)

/-! ## 2. Blocks -/

/-- Reads a header; its first bracket was read. -/
def readHeader : Reader Header := fun cs => do
  match cs with
  | '[' :: rest =>
    let ((path, key), rest) ← readPath rest
    let rest ← readMark ']' rest
    some (.element path key, ← readMark ']' rest)
  | _ =>
    let ((path, key), rest) ← readPath cs
    some (.table path key, ← readMark ']' rest)

/-- Reads the blocks from a header and the definitions below it that are read so far; `fuel`
bounds the number of lines. -/
def readBlocks : (fuel : Nat) → Header → List Definition → List Char → Option (List Block)
  | 0, _, _, _ => none
  | fuel + 1, header, definitions, cs => do
    match ← skipLines false cs with
    | [] => some [⟨header, definitions⟩]
    | '[' :: rest =>
      let (next, rest) ← readHeader rest
      let blocks ← readBlocks fuel next [] (← endLine false rest)
      some (⟨header, definitions⟩ :: blocks)
    | line =>
      let (d, rest) ← readDefinition (some ∘ skipBlanks) (readValue depthLimit) line
      readBlocks fuel header (definitions ++ [d]) (← endLine false rest)

/-- What is left after a mark of the byte order. -/
def dropByteOrderMark : List Char → List Char
  | c :: rest => if c = Char.ofNat 0xFEFF then rest else c :: rest
  | [] => []

/-- Reads a document: the entries of its top table. -/
def read (text : List Char) : Option Entries := do
  let cs := dropByteOrderMark text
  ofBlocks (← readBlocks (cs.length + 1) .start [] cs)

end BrokerBridge.Toml
