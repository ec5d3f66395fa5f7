import Exemplar.CommandLine.Grammar
import Exemplar.Diff.Listing
import Exemplar.Execution.Language
import Exemplar.Files.Path
import Exemplar.Prompt.Table
import Exemplar.Session.Registry

/-!
# The configuration of a run

A configuration is read from the command line; the time limit and the number of jobs may
come from the environment instead. What is wrong with a value is reported in a fixed
order: time limit, jobs, options, commands.
-/
namespace Exemplar.CommandLine
open Text Number

/-- The arguments that are understood. -/
def forms : List Form :=
  [⟨.language, some 'l', ["language".toList], .values, .any, false⟩,
   ⟨.timeout, none, ["timeout".toList], .value, .any, false⟩,
   ⟨.failFast, none, ["ff".toList, "fail-fast".toList], .switch, .any, false⟩,
   ⟨.dry, none, ["dry".toList], .switch, .any, false⟩,
   ⟨.skip, none, ["skip".toList], .values, .nonempty, false⟩,
   ⟨.jobs, some 'j', ["jobs".toList], .value, .any, false⟩,
   ⟨.diff, some 'd', ["diff".toList], .value,
     .oneOf (Diff.Mode.all.map fun m => m.name.toList), false⟩,
   ⟨.options, some 'o', ["options".toList], .value, .any, true⟩,
   ⟨.shebang, none, ["shebang".toList], .values, .any, false⟩,
   ⟨.searchLineComments, none, ["search-line-comments".toList], .switch, .any, false⟩,
   ⟨.verbose, some 'v', ["verbose".toList], .count, .any, false⟩,
   ⟨.quiet, some 'q', ["quiet".toList], .switch, .any, false⟩,
   ⟨.help, some 'h', ["help".toList], .showHelp, .any, false⟩,
   ⟨.version, some 'V', ["version".toList], .showVersion, .any, false⟩]

/-- Seconds of the time limit, if no argument says otherwise. -/
def timeoutVariable : String := "RUN_EXAMPLES_TIMEOUT"

/-- Number of jobs, if no argument says otherwise. -/
def jobsVariable : String := "RUN_EXAMPLES_JOBS"

def standardTimeout : Duration := Duration.ofParts 2 0

inductive ConfigError
  | timeout (value : Text) (cause : Duration.LimitError)
  | jobs (value : Text) (cause : LiteralError)
  | noJobs
  | options (token : Text)
  | shebang (value : Text)
  | command (language : String) (cause : Session.Error)
  | language (cause : Prompt.TableError)
  deriving DecidableEq, Repr

def ConfigError.message : ConfigError → String
  | timeout v (.malformed cause) => s!"Invalid timeout '{String.ofList v}': {cause.message}"
  | timeout v .notPositive =>
    s!"Timeout must be a positive number of seconds, got '{String.ofList v}'"
  | timeout v .outOfRange =>
    s!"Timeout '{String.ofList v}' is out of range: " ++
      "cannot convert float seconds to Duration: value is either too big or NaN"
  | jobs v cause => s!"Invalid number of jobs '{String.ofList v}': {cause.message}"
  | noJobs => "The number of jobs must be at least 1"
  | options token => s!"Invalid option '{String.ofList token}' in --options"
  | shebang v => s!"Invalid shebang '{String.ofList v}', expected <language>=<command>"
  | command tag cause => s!"Invalid --shebang for {tag}: {cause.message}"
  | language cause => s!"Invalid --language: {cause.message}"

structure Config where
  files : List Path
  skip : List Path
  /-- All languages if empty. -/
  languages : List String
  timeout : Duration
  jobs : Nat
  failFast : Bool
  dry : Bool
  diff : Diff.Mode
  options : Options
  /-- Command lines by language. -/
  shebangs : List (String × Text)
  searchLineComments : Bool
  verbosity : Nat
  quiet : Bool

def parseTimeout (v : Text) : Except ConfigError Duration :=
  (Duration.parseLimit (trim v)).mapError (ConfigError.timeout v)

def parseJobs (v : Text) : Except ConfigError Nat :=
  match parseCount (trim v) with
  | .error cause => .error (.jobs v cause)
  | .ok 0 => .error .noJobs
  | .ok n => .ok n

/-- A language and its command line, neither of them blank. -/
def parseShebang (v : Text) : Except ConfigError (String × Text) :=
  match breakOn ['='] v with
  | none => .error (.shebang v)
  | some (language, command) =>
    if allBlank language ∨ allBlank command then .error (.shebang v)
    else .ok (String.ofList (trim language), trim command)

def parseShebangs : List Text → Except ConfigError (List (String × Text))
  | [] => .ok []
  | v :: vs =>
    match parseShebang v with
    | .error e => .error e
    | .ok s =>
      match parseShebangs vs with
      | .error e => .error e
      | .ok rest => .ok (s :: rest)

/-- A count that stays at its largest value. -/
def verbosityOf (found : Found) : Nat := min (found.occurrences .verbose) 255

namespace Config

/-- The values of variables, by name. -/
abbrev Environment := List (String × Text)

def lookup? (env : Environment) (name : String) : Option Text :=
  (env.find? fun e => e.1 == name).map Prod.snd

def ofFound (found : Found) (env : Environment) : Except ConfigError Config := do
  let timeout ← match found.last? .timeout <|> lookup? env timeoutVariable with
    | some v => parseTimeout v
    | none => .ok standardTimeout
  let jobs ← match found.last? .jobs <|> lookup? env jobsVariable with
    | some v => parseJobs v
    | none => .ok 1
  let options ← match found.last? .options with
    | some flags => (Options.ofFlags flags).mapError ConfigError.options
    | none => .ok Options.none
  let shebangs ← parseShebangs (found.values .shebang)
  let mode := ((found.last? .diff).bind fun v => Diff.Mode.named? (String.ofList v)).getD .standard
  return {
    files := found.values .files
    skip := found.values .skip
    languages := (found.values .language).map String.ofList
    timeout, jobs
    failFast := found.has .failFast
    dry := found.has .dry
    diff := mode
    options, shebangs
    searchLineComments := found.has .searchLineComments
    verbosity := verbosityOf found
    quiet := found.has .quiet }

/-- The prompts of the wanted languages. -/
def table (c : Config) : Except ConfigError Prompt.Table :=
  if c.languages.isEmpty then .ok .standard
  else (Prompt.Table.standard.select c.languages).mapError ConfigError.language

def setCommands (r : Session.Registry) :
    List (String × Text) → Except ConfigError Session.Registry
  | [] => .ok r
  | (language, command) :: rest =>
    match r.setCommand language command with
    | .error e => .error (.command language e)
    | .ok r' => setCommands r' rest

/-- The interpreters with the command lines of the configuration. -/
def registry (c : Config) : Except ConfigError Session.Registry :=
  setCommands .standard c.shebangs

def settings (c : Config) : Execution.Settings := ⟨c.timeout, c.failFast, c.options⟩

end Config

end Exemplar.CommandLine
