import BrokerBridge.Config.Tree
import BrokerBridge.Number.Decimal

/-!
# Key paths in text

The top keys of a source are paths: names between points, and indices in brackets.  A name holds
ASCII letters, digits, underscores and hyphens.  A key that is no path is a name of its own.
-/
namespace BrokerBridge.Config

/-- Whether a character may stand in a name of a path. -/
def isNameChar (c : Char) : Bool :=
  decide ('a' ≤ c ∧ c ≤ 'z') || decide ('A' ≤ c ∧ c ≤ 'Z') || decide ('0' ≤ c ∧ c ≤ '9') ||
    c == '_' || c == '-'

/-- A name, and what follows it. -/
def readName (cs : List Char) : Option (String × List Char) :=
  match cs.takeWhile isNameChar with
  | [] => none
  | name => some (String.ofList name, cs.dropWhile isNameChar)

/-- Whether a character is a blank or a tab. -/
def isBlankOrTab (c : Char) : Bool := c == ' ' || c == '\t'

/-- The index that stands between brackets: digits after an optional minus, with blanks around,
in the range of 64 bits. -/
def index? (cs : List Char) : Option Int :=
  let inner := cs.dropWhile isBlankOrTab
  let word := inner.takeWhile fun c => !isBlankOrTab c
  if (inner.dropWhile fun c => !isBlankOrTab c).all isBlankOrTab && word.head? != some '+' then
    (integer? word).filter isInteger64
  else none

/-- The steps of a path after its root; `fuel` bounds their number. -/
def readSteps : (fuel : Nat) → List Char → Option (List Step)
  | _, [] => some []
  | 0, _ :: _ => none
  | fuel + 1, '.' :: rest =>
    match readName rest with
    | none => none
    | some (name, after) => (readSteps fuel after).map (.key name :: ·)
  | fuel + 1, '[' :: rest =>
    match index? (rest.takeWhile (· != ']')), rest.dropWhile (· != ']') with
    | some i, _ :: after => (readSteps fuel after).map (.index i :: ·)
    | _, _ => none
  | _ + 1, _ :: _ => none

/-- The path that a text writes. -/
def KeyPath.ofText? (text : String) : Option KeyPath :=
  match readName text.toList with
  | none => none
  | some (root, rest) => (readSteps rest.length rest).map (KeyPath.mk root ·)

/-- The path of a top key. -/
def KeyPath.ofKey (key : String) : KeyPath := (KeyPath.ofText? key).getD ⟨key, []⟩

/-- Lays the entries of a source over a tree, as they are met: every one of its keys is a path. -/
def Tree.addSource (source : List (String × Node)) (tree : Tree) : Tree :=
  source.foldl (fun tree entry => tree.set (KeyPath.ofKey entry.1) entry.2) tree

end BrokerBridge.Config
