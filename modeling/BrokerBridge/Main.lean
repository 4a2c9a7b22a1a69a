import BrokerBridge.CommandLine

/-!
# The program

`main` reads the files and the variables that the settings may come from, loads the settings and
reports them.  It holds no rule of its own.
-/
namespace BrokerBridge

/-- The content of the file at a path, if there is one to read. -/
def readContent (path : String) : IO (Option Bytes) := do
  try
    let content ← IO.FS.readBinFile path
    pure (some content.toList)
  catch _ => pure none

/-- The contents of the files among some paths. -/
def readContents (paths : List String) : IO (Assoc Bytes) :=
  paths.filterMapM fun path => do
    pure ((← readContent path).map fun content => (path, content))

/-- The variables that are set among some names. -/
def readVariables (names : List String) : IO Config.Environment :=
  names.filterMapM fun name => do
    pure ((← IO.getEnv name).map fun value => (name, value))

/-- What the settings are loaded from where the program runs. -/
def readSurroundings (o : Options) : IO Config.Surroundings := do
  let path := o.config.getD Config.defaultPath
  let contents ← readContents (Config.candidates Config.Format.known path)
  let environment ← readVariables Config.knownVariables
  pure { content? := contents.get?, directory := (← IO.currentDir).toString, environment }

/-- Answers a command line. -/
def answer (arguments : List String) : IO UInt32 := do
  match Request.ofArguments {} arguments with
  | .error fault => IO.eprintln fault.text; pure 2
  | .ok .help => IO.println helpText; pure 0
  | .ok .version => IO.println versionText; pure 0
  | .ok (.run options) =>
    let (lines, ok) := start options (← readSurroundings options)
    lines.forM fun line => IO.println line
    pure (if ok then 0 else 1)

end BrokerBridge

/-- Loads the settings and reports them. -/
def main (arguments : List String) : IO UInt32 := BrokerBridge.answer arguments
