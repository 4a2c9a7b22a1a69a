import BrokerBridge.Assoc
import BrokerBridge.Text.Utf8

/-!
# File trees

The files that the bridge may read, by their names relative to the directory it runs in, and the
paths that lead to none that it may read.  A directory exists when it is listed or when something
lies in it.  `FileTree.find` walks a path
component by component, so it knows a missing name from a name below a file.  Outside of the tree
only the directories on the way up to the root are known.
-/
namespace BrokerBridge

/-- A tree of files. -/
structure FileTree where
  files : Assoc Bytes := []
  directories : List String := []
  /-- The paths on which reading fails, whatever lies there, and the words of the fault. -/
  unreadable : Assoc String := []
  deriving Repr

/-- Why a path leads to no content. -/
inductive FileFault where
  | notFound
  | notADirectory
  | isADirectory
  | nameTooLong
  | zeroByte
  | notUtf8
  /-- Any other fault, such as a permission that is missing. -/
  | other (words : String)
  deriving DecidableEq, Repr

/-- A fault in words. -/
def FileFault.message : FileFault → String
  | .notFound => "No such file or directory (os error 2)"
  | .notADirectory => "Not a directory (os error 20)"
  | .isADirectory => "Is a directory (os error 21)"
  | .nameTooLong => "File name too long (os error 36)"
  | .zeroByte => "file name contained an unexpected NUL byte"
  | .notUtf8 => "stream did not contain valid UTF-8"
  | .other words => words

/-- What a path leads to. -/
inductive FileNode where
  | file (content : Bytes)
  | directory
  deriving DecidableEq, Repr

/-- The parts of a path between its slashes. -/
def betweenSlashes : List Char → List (List Char)
  | [] => [[]]
  | c :: rest =>
    if c = '/' then [] :: betweenSlashes rest
    else match betweenSlashes rest with
      | part :: parts => (c :: part) :: parts
      | [] => [[c]]

/-- The components of a path; parts that change nothing are left out. -/
def pathComponents (path : String) : List String :=
  ((betweenSlashes path.toList).map String.ofList).filter fun part => part ≠ "" ∧ part ≠ "."

namespace FileTree

/-- Whether one path lies below another one. -/
def liesBelow (path directory : List String) : Bool :=
  directory.isPrefixOf path && directory.length < path.length

/-- What the components of a path lead to. -/
def nodeAt? (t : FileTree) (components : List String) : Option FileNode :=
  match t.files.find? fun entry => pathComponents entry.1 = components with
  | some (_, content) => some (.file content)
  | none =>
    let all := t.files.map Prod.fst ++ t.directories
    if components = [] ∨ (t.directories.any fun d => pathComponents d = components) ∨
        (all.any fun name => liesBelow (pathComponents name) components) then some .directory
    else none

/-- Follows one component from a directory, given by its components, or by nothing outside of the
tree. -/
def step (t : FileTree) (part : String) :
    Option (List String) → Except FileFault (FileNode × Option (List String))
  | none =>
    if part = ".." then .ok (.directory, none)
    else if 255 < part.utf8ByteSize then .error .nameTooLong
    else .error .notFound
  | some here =>
    if part = ".." then .ok (.directory, if here = [] then none else some here.dropLast)
    else if 255 < part.utf8ByteSize then .error .nameTooLong
    else match t.nodeAt? (here ++ [part]) with
      | none => .error .notFound
      | some node => .ok (node, some (here ++ [part]))

/-- Walks from a node along some components. -/
def walk (t : FileTree) (node : FileNode) (here : Option (List String)) :
    List String → Except FileFault FileNode
  | [] => .ok node
  | part :: rest =>
    match node with
    | .file _ => .error .notADirectory
    | .directory =>
      match t.step part here with
      | .error fault => .error fault
      | .ok (next, there) => walk t next there rest

/-- What the components of a path lead to. -/
def follow (t : FileTree) (path : String) : Except FileFault FileNode :=
  if path.startsWith "/" then
    match t.files.get? path with
    | some content => .ok (.file content)
    | none => t.walk .directory none (pathComponents path)
  else t.walk .directory (some []) (pathComponents path)

/-- What a path leads to. -/
def find (t : FileTree) (path : String) : Except FileFault FileNode :=
  if path.contains (Char.ofNat 0) then .error .zeroByte
  else if path = "" then .error .notFound
  else if 4096 ≤ path.utf8ByteSize then .error .nameTooLong
  else
    match t.follow path with
    | .ok (.file content) =>
      if path.endsWith "/" ∨ path.endsWith "/." then .error .notADirectory else .ok (.file content)
    | found => found

/-- The content of the file at a path. -/
def read (t : FileTree) (path : String) : Except FileFault Bytes :=
  match t.unreadable.get? path with
  | some words => .error (.other words)
  | none =>
    match t.find path with
    | .ok (.file content) => .ok content
    | .ok .directory => .error .isADirectory
    | .error fault => .error fault

/-- The text of the file at a path. -/
def readText (t : FileTree) (path : String) : Except FileFault String :=
  match t.read path with
  | .error fault => .error fault
  | .ok content =>
    match Utf8.text? content with
    | some text => .ok text
    | none => .error .notUtf8

end FileTree

end BrokerBridge
