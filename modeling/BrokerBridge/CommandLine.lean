import BrokerBridge.Config.Load
import BrokerBridge.Log

/-!
# The command line

Two options may be given, each once and with a value: the configuration file and the level of the
log.  The value is the next argument, or stands in the option's own after an equals sign.
-/
namespace BrokerBridge

/-- What the options say. -/
structure Options where
  config : Option String := none
  logLevel : Option String := none
  deriving DecidableEq, Repr

/-- What a command line asks for. -/
inductive Request where
  | run (options : Options)
  | help
  | version
  deriving DecidableEq, Repr

/-- An option that takes a value. -/
inductive ValueOption where
  | config
  | logLevel
  deriving DecidableEq, Repr

/-- What is wrong with a command line. -/
inductive UsageFault where
  | unexpected (argument : String)
  | noValue (option : ValueOption)
  | repeated (option : ValueOption)
  deriving DecidableEq, Repr

namespace ValueOption

/-- The name of an option. -/
def name : ValueOption → String
  | config => "--config"
  | logLevel => "--log-level"

/-- An option with the name of its value. -/
def usage : ValueOption → String
  | config => "--config <CONFIG>"
  | logLevel => "--log-level <LOG_LEVEL>"

/-- Gives an option its value, if it has none yet. -/
def give (option : ValueOption) (value : String) (o : Options) : Except UsageFault Options :=
  match option with
  | config => if o.config.isSome then .error (.repeated option) else
    if value = "" then .error (.noValue option) else .ok { o with config := some value }
  | logLevel => if o.logLevel.isSome then .error (.repeated option) else
    .ok { o with logLevel := some value }

/-- The option that an argument names, and the value that stands in the same argument. -/
def ofArgument? (argument : String) : Option (ValueOption × Option String) :=
  [config, logLevel].findSome? fun option =>
    let start := option.name.toList
    let cs := argument.toList
    if start.isPrefixOf cs then
      match cs.drop start.length with
      | [] => some (option, none)
      | '=' :: value => some (option, some (String.ofList value))
      | _ => none
    else none

end ValueOption

/-- Reads the arguments that are left, after some options. -/
def Request.ofArguments (o : Options) : List String → Except UsageFault Request
  | [] => .ok (.run o)
  | argument :: rest =>
    if argument ∈ ["-h", "--help"] then .ok .help
    else if argument ∈ ["-V", "--version"] then .ok .version
    else
      match ValueOption.ofArgument? argument with
      | none => .error (.unexpected argument)
      | some (option, some value) => do ofArguments (← option.give value o) rest
      | some (option, none) =>
        match rest with
        | [] => .error (.noValue option)
        | value :: rest =>
          if value.startsWith "-" then .error (.noValue option)
          else do ofArguments (← option.give value o) rest

/-- What is wrong with a command line, in words. -/
def UsageFault.message : UsageFault → String
  | .unexpected argument => "unexpected argument '" ++ argument ++ "' found"
  | .noValue option => "a value is required for '" ++ option.usage ++ "' but none was supplied"
  | .repeated option => "the argument '" ++ option.usage ++ "' cannot be used multiple times"

/-- How the program is called. -/
def usageText : String := "Usage: broker-bridge [OPTIONS]"

/-- The program and its version. -/
def versionText : String := "broker-bridge 0.1.0"

/-- What the program does and how it is called. -/
def helpText : String := "\n".intercalate [
  "Bridges the CEGA and LEGA message brokers",
  "",
  usageText,
  "",
  "Options:",
  "      --config <CONFIG>        Configuration file; defaults to `config/default.*` when present",
  "      --log-level <LOG_LEVEL>  Log level, overriding `logging.level`",
  "  -h, --help                   Print help",
  "  -V, --version                Print version"]

/-- The answer to a faulty command line. -/
def UsageFault.text (fault : UsageFault) : String := "\n".intercalate [
  "error: " ++ fault.message, "", usageText, "", "For more information, try '--help'."]

/-! ## The log of a start -/

/-- The value of a field on a line of the log. -/
def FieldValue.line : FieldValue → String
  | .text s => s
  | .number n => toString n
  | .flag b => if b then "true" else "false"

/-- An entry on a line of the log. -/
def Entry.line (e : Entry) : String :=
  e.level.name ++ " " ++ e.message ++
    String.join (e.fields.map fun (name, value) => " " ++ name ++ "=" ++ value.line)

/-- How much a level lets through: the place of the least level in the order. -/
def Level.rank : Level → Nat
  | .error => 0
  | .warn => 1
  | .info => 2
  | .debug => 3
  | .trace => 4

/-- The lines of the log at a level. -/
def logLines (level : Level) (entries : List Entry) : List String :=
  (entries.filter fun e => e.level.rank ≤ level.rank).map Entry.line

/-- The words for a configuration that cannot be loaded. -/
def Config.ConfigError.text (e : Config.ConfigError) : String :=
  match e, e.message? with
  | _, some words => words
  | .source (.malformed path), none => "cannot read " ++ path
  | _, none => ""

/-- Loads the settings as the options say: the lines of the log, and whether it succeeded. -/
def start (o : Options) (s : Config.Surroundings) : List String × Bool :=
  match Config.load s o.config with
  | .error e =>
    (logLines (Level.ofName (o.logLevel.getD "info"))
      [⟨.error, "Invalid configuration", [("error", .text e.text)]⟩], false)
  | .ok settings =>
    (logLines (Level.ofName (o.logLevel.getD settings.logging.level))
      [⟨.info, "Starting", [("settings", .text settings.summary)]⟩], true)

end BrokerBridge
