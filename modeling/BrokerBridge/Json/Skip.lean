import BrokerBridge.Json.Number
import BrokerBridge.Json.Text

/-!
# Passing over values

A record has fields that nobody asks for.  `skipValue` passes over the value of such a field.  It
keeps the list of containers that are open, so no depth is too great for it, and it checks the
grammar of what it passes over, but neither the characters of strings nor the size of numbers.

Every two steps take at least a byte, so twice the number of bytes is fuel enough.
-/
namespace BrokerBridge.Json

/-- A container that is open. -/
inductive Frame where
  | array
  | object
  deriving DecidableEq, Repr

/-- The enclosure that a container is. -/
def Frame.enclosure : Frame → Enclosure
  | .array => brackets
  | .object => braces

/-- What may come next: a value, an item or the end of a container just opened, or what follows
a value. -/
inductive SkipState where
  | value
  | opened
  | passed
  deriving DecidableEq, Repr

/-- A number cut short by the end of a text is as wrong as any other. -/
def cutNumberFault : Fault → Fault
  | .read .unfinishedValue n => .read .invalidNumber n
  | .met .unfinishedValue n => .met .invalidNumber n
  | fault => fault

/-- Passes a value that is no container; `b` is its first byte. -/
def skipScalar (b : UInt8) (rest : Bytes) : Except Fault Bytes :=
  match mark b with
  | .quote => skipText rest
  | .minus | .digit =>
    match Number.read (b :: rest) with
    | .ok (_, after) => .ok after
    | .error fault => .error (cutNumberFault fault)
  | _ =>
    match Word.ofFirst? b with
    | some (_, tail) => readWord tail rest
    | none => .error (.ahead .expectedValue (b :: rest))

/-- The container that a byte opens. -/
def Frame.ofFirst? (b : UInt8) : Option Frame :=
  match mark b with
  | .openBracket => some .array
  | .openBrace => some .object
  | _ => none

/-- Passes what stands in front of an item's value: a key and its colon in an object. -/
def Frame.skipKey (frame : Frame) (bytes : Bytes) : Except Fault Bytes :=
  match frame with
  | .array => .ok bytes
  | .object =>
    match skipBlanks bytes with
    | [] => .error (.ahead .unfinishedObject [])
    | b :: rest =>
      if mark b = .quote then (skipText rest).bind readColon
      else .error (.ahead .keyNotString (b :: rest))

/-- Passes what is left of a value inside the containers that are open, innermost first. -/
def skipFrom : (fuel : Nat) → List Frame → SkipState → Bytes → Except Fault Bytes
  | 0, _, _, bytes => .error (.ahead .unfinishedValue bytes)
  | fuel + 1, frames, .value, bytes =>
    match skipBlanks bytes with
    | [] => .error (.ahead .unfinishedValue [])
    | b :: rest =>
      match Frame.ofFirst? b with
      | some frame => skipFrom fuel (frame :: frames) .opened rest
      | none =>
        match skipScalar b rest with
        | .ok after => skipFrom fuel frames .passed after
        | .error fault => .error fault
  | _ + 1, [], _, bytes => .ok bytes
  | fuel + 1, frame :: frames, state, bytes =>
    match skipBlanks bytes with
    | [] => .error (.ahead frame.enclosure.unfinished [])
    | b :: rest =>
      if mark b = frame.enclosure.close then skipFrom fuel frames .passed rest
      else if state = .opened then
        match frame.skipKey (b :: rest) with
        | .ok after => skipFrom fuel (frame :: frames) .value after
        | .error fault => .error fault
      else if mark b = .comma then
        match frame.skipKey rest with
        | .ok after => skipFrom fuel (frame :: frames) .value after
        | .error fault => .error fault
      else .error (.ahead frame.enclosure.unseparated (b :: rest))

/-- Passes over a value. -/
def skipValue (bytes : Bytes) : Except Fault Bytes :=
  skipFrom (2 * bytes.length + 2) [] .value bytes

end BrokerBridge.Json
