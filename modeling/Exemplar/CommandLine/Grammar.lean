import Exemplar.Text.Search

/-!
# Reading a command line

Arguments are flags, options with a value, and files. A value may follow its option in
the same argument or in the next one. A value in an argument of its own is taken in hand
and judged when the next argument needs the hand free; an argument that is unknown is
reported before a value in hand is judged.
-/
namespace Exemplar.CommandLine
open Text

/-- What an argument is about. -/
inductive Key
  | files
  | language
  | timeout
  | failFast
  | dry
  | skip
  | jobs
  | diff
  | options
  | shebang
  | searchLineComments
  | verbose
  | quiet
  | help
  | version
  deriving DecidableEq, Repr

/-- What an occurrence does. -/
inductive Action
  /-- One value, once. -/
  | value
  /-- One value, any number of times. -/
  | values
  /-- No value, once. -/
  | switch
  /-- No value, any number of times. -/
  | count
  | showHelp
  | showVersion
  deriving DecidableEq, Repr

def Action.takesValue : Action → Bool
  | .value => true
  | .values => true
  | _ => false

/-- Which values are allowed. -/
inductive Allowed
  | any
  | nonempty
  | oneOf (names : List Text)
  deriving DecidableEq, Repr

def Allowed.accepts (a : Allowed) (v : Text) : Bool :=
  match a with
  | any => true
  | nonempty => !v.isEmpty
  | oneOf names => names.contains v

structure Form where
  key : Key
  short : Option Char
  long : List Text
  action : Action
  allowed : Allowed
  /-- The next argument is the value even if it begins with a hyphen. -/
  hyphenValue : Bool
  deriving DecidableEq, Repr

inductive UsageError
  | missingFiles
  | unknownArgument (argument : Text)
  | invalidValue (key : Key)
  | repeated (key : Key)
  | quietAndVerbose
  | unexpectedValue (key : Key)
  | helpRequested
  | versionRequested
  deriving DecidableEq, Repr

/-- Help and the version are answers; everything else is a wrong use. -/
def UsageError.exitCode : UsageError → Nat
  | helpRequested => 0
  | versionRequested => 0
  | _ => 2

/-- How an argument is called in a message. -/
def Key.name : Key → String
  | files => "<file>"
  | language => "--language"
  | timeout => "--timeout"
  | failFast => "--fail-fast"
  | dry => "--dry"
  | skip => "--skip"
  | jobs => "--jobs"
  | diff => "--diff"
  | options => "--options"
  | shebang => "--shebang"
  | searchLineComments => "--search-line-comments"
  | verbose => "--verbose"
  | quiet => "--quiet"
  | help => "--help"
  | version => "--version"

def UsageError.message : UsageError → String
  | missingFiles => "no files are given"
  | unknownArgument argument => "unknown argument '" ++ String.ofList argument ++ "'"
  | invalidValue key => "the value of " ++ key.name ++ " is missing or not allowed"
  | repeated key => key.name ++ " is given more than once"
  | quietAndVerbose => "--quiet and --verbose exclude each other"
  | unexpectedValue key => key.name ++ " takes no value"
  | helpRequested => "help is wanted"
  | versionRequested => "the version is wanted"

/-- A value or files that are still in hand. -/
inductive Hand
  | empty
  | awaiting (form : Form)
  | holding (form : Form) (value : Text)
  | files (paths : List Text)

/-- Values by key, in the order in which they were judged. -/
abbrev Found := List (Key × List Text)

namespace Found

def has (found : Found) (k : Key) : Bool := found.any fun f => f.1 == k

def values (found : Found) (k : Key) : List Text :=
  found.flatMap fun f => if f.1 = k then f.2 else []

def last? (found : Found) (k : Key) : Option Text := (found.values k).getLast?

def occurrences (found : Found) (k : Key) : Nat := found.countP fun f => f.1 == k

end Found

/-- Put an occurrence down, if it may occur and its value is allowed. -/
def accept (found : Found) (form : Form) (value : List Text) : Except UsageError Found :=
  match form.action with
  | .showHelp => .error .helpRequested
  | .showVersion => .error .versionRequested
  | action =>
    if (action = .value ∨ action = .switch) ∧ found.has form.key then .error (.repeated form.key)
    else if value.all form.allowed.accepts then .ok (found ++ [(form.key, value)])
    else .error (.invalidValue form.key)

/-- Judge what is in hand. -/
def settle (found : Found) : Hand → Except UsageError Found
  | .empty => .ok found
  | .awaiting form => .error (.invalidValue form.key)
  | .holding form v => accept found form [v]
  | .files paths =>
    if paths.all fun p => !p.isEmpty then .ok (found ++ [(.files, paths)])
    else .error (.invalidValue .files)

structure State where
  found : Found
  hand : Hand

/-- An occurrence that is complete. -/
def State.react (s : State) (form : Form) (value : List Text) : Except UsageError State :=
  match settle s.found s.hand with
  | .error e => .error e
  | .ok found =>
    match accept found form value with
    | .error e => .error e
    | .ok found' => .ok ⟨found', .empty⟩

/-- An option whose value is the next argument. -/
def State.await (s : State) (form : Form) : Except UsageError State :=
  match settle s.found s.hand with
  | .error e => .error e
  | .ok found => .ok ⟨found, .awaiting form⟩

/-- A file; files in a row are judged together. -/
def State.addFile (s : State) (path : Text) : Except UsageError State :=
  match s.hand with
  | .files paths => .ok ⟨s.found, .files (paths ++ [path])⟩
  | hand =>
    match settle s.found hand with
    | .error e => .error e
    | .ok found => .ok ⟨found, .files [path]⟩

/-- A name and the value behind its equals sign. -/
def splitValue (t : Text) : Text × Option Text :=
  match breakOn ['='] t with
  | some (name, value) => (name, some value)
  | none => (t, none)

def readLong (forms : List Form) (s : State) (body : Text) : Except UsageError State :=
  let (name, value) := splitValue body
  match forms.find? fun f => f.long.contains name with
  | none => .error (.unknownArgument ('-' :: '-' :: name))
  | some form =>
    match form.action.takesValue, value with
    | true, some v => s.react form [v]
    | true, none => s.await form
    | false, some _ => .error (.unexpectedValue form.key)
    | false, none => s.react form []

/-- Flags that share a hyphen; the value of an option is what is left of the argument. -/
def readShort (forms : List Form) (s : State) : Text → Except UsageError State
  | [] => .ok s
  | c :: t =>
    match forms.find? fun f => f.short == some c with
    | none => .error (.unknownArgument ['-', c])
    | some form =>
      if form.action.takesValue then
        match t with
        | [] => s.await form
        | '=' :: v => s.react form [v]
        | v => s.react form [v]
      else
        match s.react form [] with
        | .error e => .error e
        | .ok s' => readShort forms s' t

/-- An argument that is no value for what is in hand. -/
def readFree (forms : List Form) (s : State) (argument : Text) : Except UsageError State :=
  match argument with
  | '-' :: '-' :: body => readLong forms s body
  | '-' :: c :: t => readShort forms s (c :: t)
  | _ => s.addFile argument

/-- Whether an argument looks like a flag. -/
def isFlag : Text → Bool
  | '-' :: _ :: _ => true
  | _ => false

/-- Read one argument in front of which no `--` stands. -/
def readArgument (forms : List Form) (s : State) (argument : Text) : Except UsageError State :=
  match s.hand with
  | .awaiting form =>
    if form.hyphenValue || !isFlag argument then .ok ⟨s.found, .holding form argument⟩
    else readFree forms s argument
  | _ => readFree forms s argument

def readFiles (s : State) : List Text → Except UsageError State
  | [] => .ok s
  | a :: as =>
    match s.addFile a with
    | .error e => .error e
    | .ok s' => readFiles s' as

/-- Whether an option in hand takes the argument `--` as its value. -/
def takesMarker : Hand → Bool
  | .awaiting form => form.hyphenValue
  | _ => false

def readArguments (forms : List Form) (s : State) : List Text → Except UsageError State
  | [] => .ok s
  | a :: as =>
    if a = ['-', '-'] ∧ takesMarker s.hand = false then readFiles s as
    else
      match readArgument forms s a with
      | .error e => .error e
      | .ok s' => readArguments forms s' as

/-- The occurrences of a command line, which has to name files. -/
def read (forms : List Form) (arguments : List Text) : Except UsageError Found :=
  match readArguments forms ⟨[], .empty⟩ arguments with
  | .error e => .error e
  | .ok s =>
    match settle s.found s.hand with
    | .error e => .error e
    | .ok found =>
      if found.has .quiet ∧ found.has .verbose then .error .quietAndVerbose
      else if found.has .files then .ok found
      else .error .missingFiles

end Exemplar.CommandLine
