import BrokerBridge.Config.Format
import BrokerBridge.Files

/-!
# Configuration files

A path leads to a configuration file either exactly, and then its extension must be that of a
format, or without the extension, and then the formats are tried in order.  The program keeps its
formats in a hash map, so that this order is any order of them.  The extension comes after the last
component of the path, so nothing of a name is cut off.

Of the files here only `content?` is known: what a path leads to, if it leads to a file.
-/
namespace BrokerBridge.Config

/-- Why there is no configuration file to read. -/
inductive SourceFault where
  /-- No file is there, with an extension or without. -/
  | notFound (path : String)
  /-- The file that is there has the extension of no format. -/
  | unsupported (path : String)
  /-- The file is ill-formed, or its top is no table. -/
  | malformed (path : String)
  deriving DecidableEq, Repr

/-- A configuration file: its format, the path that leads to it, and its content. -/
structure ConfigFile where
  format : Format
  path : String
  content : Bytes

/-- The extension of a file's name: what follows its last point, unless that comes first. -/
def extension? (name : String) : Option String :=
  match name.toList.reverse.dropWhile (· != '.') with
  | '.' :: _ :: _ => some (String.ofList (name.toList.reverse.takeWhile (· != '.')).reverse)
  | _ => none

/-- The format, among some, that the extension of a path names. -/
def formatOf? (formats : List Format) (path : String) : Option Format := do
  let extension ← (pathComponents path).getLast?.bind extension?
  formats.find? fun format => extension ∈ format.extensions

/-- A path without what changes nothing in it. -/
def plainPath (path : String) : String :=
  (if path.startsWith "/" then "/" else "") ++ "/".intercalate (pathComponents path)

/-- The name of a file in a directory that is named like a file, before its extension. -/
def placeholder : String := ".placeholder"

/-- A path with an extension added.  A last component without one gets it; a path whose last
component has one already is taken to its end, so that past a slash a name is made up. -/
def withExtension? (path : String) (extension : String) : Option String :=
  match (pathComponents path).getLast? with
  | none => none
  | some last =>
    if last = ".." then none
    else if (extension? last).isNone then some (plainPath path ++ "." ++ extension)
    else if path.endsWith "/" then some (path ++ placeholder ++ "." ++ extension)
    else some (path ++ "." ++ extension)

/-- The paths of the files that a path may lead to. -/
def candidates (formats : List Format) (path : String) : List String :=
  path :: (formats.flatMap Format.extensions).filterMap (withExtension? path)

/-- The file of a format that a path leads to without its extension. -/
def fileOfFormat? (content? : String → Option Bytes) (path : String) (format : Format) :
    Option ConfigFile :=
  format.extensions.findSome? fun extension => do
    let path ← withExtension? path extension
    some ⟨format, plainPath path, ← content? path⟩

/-- The configuration file that a path leads to; `directory` is where relative paths start. -/
def locate (formats : List Format) (content? : String → Option Bytes) (directory path : String) :
    Except SourceFault ConfigFile :=
  match content? path with
  | some content =>
    match formatOf? formats path with
    | some format => .ok ⟨format, plainPath path, content⟩
    | none =>
      .error (.unsupported (if path.startsWith "/" then path else directory ++ "/" ++ path))
  | none =>
    match formats.findSome? (fileOfFormat? content? path) with
    | some file => .ok file
    | none => .error (.notFound path)

/-- The content without a mark of the byte order in front. -/
def dropMark : Bytes → Bytes
  | 0xEF :: 0xBB :: 0xBF :: rest => rest
  | bytes => bytes

/-- The top table of a configuration file; U+FFFD stands for what is not UTF-8. -/
def ConfigFile.read (file : ConfigFile) : Except SourceFault (Assoc Node) :=
  match file.format.read file.path (Utf8.lossy (dropMark file.content)) with
  | some entries => .ok entries
  | none => .error (.malformed file.path)

/-- What is wrong with a configuration file, in words; the fault of an ill-formed one has none of
its own. -/
def SourceFault.message? : SourceFault → Option String
  | .notFound path => some ("configuration file \"" ++ path ++ "\" not found")
  | .unsupported path =>
    some ("configuration file \"" ++ path ++ "\" is not of a supported file format")
  | .malformed _ => none

end BrokerBridge.Config
