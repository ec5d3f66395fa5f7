import Exemplar.Shell.Builtin.Directory
import Exemplar.Shell.Builtin.Output
import Exemplar.Shell.Builtin.Signals
import Exemplar.Shell.Grammar

/-!
# What a name means as a command

A name is looked for among the functions, the commands of the shell, and the programs in
the directories that are searched. Programs that were found are remembered.
-/
namespace Exemplar.Shell.Builtin
open Text

/-- Commands that only the shell itself can carry out. -/
def controls : List String :=
  [".", "break", "command", "continue", "eval", "exec", "exit", "hash", "return", "type"]

/-- Commands whose arguments may be assignments. -/
def takesAssignments (name : Text) : Bool :=
  ["alias", "export", "local", "readonly"].contains (String.ofList name)

def isSpecialCommand (name : Text) : Bool :=
  Grammar.specialBuiltins.contains (String.ofList name)

/-- Jobs of a shell stay where they are. -/
def moveJob (args : List Text) (s : State) : State :=
  let target := args.head?.getD ['%']
  match s.known, namedJob? s target with
  | [], _ =>
    if args.isEmpty then s.abandon "No current job" else s.refuse ("No such job: ".toList ++ target)
  | _, none => s.refuse ("No such job: ".toList ++ target)
  | _, some _ =>
    let shown := (args.head?).getD "(null)".toList
    s.refuse ("job ".toList ++ shown ++ " not created under job control".toList)

/-- Commands of the shell that need nothing but its state. -/
def find? (name : Text) : Option (List Text → State → State) :=
  match String.ofList name with
  | ":" => some fun _ s => s.withStatus 0
  | "true" => some fun _ s => s.withStatus 0
  | "false" => some fun _ s => s.withStatus 1
  | "echo" => some echo
  | "printf" => some printf
  | "test" => some (condition false)
  | "[" => some (condition true)
  | "cd" => some cd
  | "chdir" => some cd
  | "pwd" => some pwd
  | "umask" => some umask
  | "ulimit" => some ulimit
  | "times" => some fun _ => times
  | "set" => some set
  | "shift" => some shift
  | "getopts" => some getopts
  | "export" => some exportNames
  | "readonly" => some readonlyNames
  | "local" => some localNames
  | "unset" => some unset
  | "read" => some read
  | "alias" => some aliasNames
  | "unalias" => some unalias
  | "trap" => some trap
  | "kill" => some kill
  | "jobs" => some jobs
  | "wait" => some wait
  | "fg" => some moveJob
  | "bg" => some moveJob
  | _ => none

def isBuiltin (name : Text) : Bool :=
  controls.contains (String.ofList name) || (find? name).isSome

def standardPath : Text :=
  "/usr/local/sbin:/usr/local/bin:/usr/sbin:/usr/bin:/sbin:/bin".toList

def isExecutable (s : State) (place : Files.Place) : Bool :=
  (s.attributeAt place).permissions &&& 0o111 ≠ 0

/-- Why no program was found. -/
inductive Missing
  | notFound
  | denied
  deriving DecidableEq, Repr

def Missing.message : Missing → String
  | notFound => "not found"
  | denied => "Permission denied"

/-- Look for a program in directories. -/
def search (s : State) (path name : Text) : Except Missing Text :=
  let candidates := (splitBy (· == ':') path).map fun d =>
    if d.isEmpty then name else d ++ '/' :: name
  candidates.foldl (fun found c =>
    match found with
    | .ok c => .ok c
    | .error e =>
      match s.resolve c with
      | .ok ⟨place, .file _⟩ => if isExecutable s place then .ok c else .error .denied
      | .ok _ => .error .denied
      | .error .notFound => .error e
      | .error .notADirectory => .error e
      | .error _ => .error .denied) (.error .notFound)

/-- The path of a program, which is remembered if it was found by its name. -/
def program (s : State) (standard : Bool) (name : Text) : Except Missing Text × State :=
  if name.any (· == '/') then (.ok name, s)
  else
    match search s (if standard then standardPath else s.value "PATH".toList) name with
    | .ok path =>
      let hashed := if standard || s.hashed.contains name then s.hashed else s.hashed ++ [name]
      (.ok path, { s with hashed })
    | .error e =>
      let hashed := if standard then s.hashed else s.hashed.filter fun n => n ≠ name
      (.error e, { s with hashed })

/-- The remembered names in the order in which they are listed. -/
def hashedOrder (names : List Text) : List Text :=
  let key := fun (n : Text) =>
    (n.foldl (fun k c => k + c.toNat) ((n.head?.map Char.toNat).getD 0 * 16)) % 31
  (List.range 31).flatMap fun k => names.filter fun n => key n == k

def hash (args : List Text) (s : State) : State :=
  withOptions "r" args s fun g s =>
    if g.has 'r' then { s with hashed := [], status := 0 }
    else if g.operands.isEmpty then
      let shown := (hashedOrder s.hashed).flatMap fun n =>
        match search s (s.value "PATH".toList) n with
        | .ok path => path ++ ['\n']
        | .error _ => n ++ ['\n']
      (s.out shown).withStatus 0
    else g.operands.foldl (fun s n =>
      if isBuiltin n || (s.functions.lookup n).isSome then s
      else
        let (found, s) := program s false n
        match found with
        | .ok _ => s
        | .error e => (s.complainBytes (n ++ ": ".toList ++ e.message.toList)).withStatus 1)
      (s.withStatus 0)

/-- Tell what a name means. -/
def describe (verbose standard : Bool) (name : Text) (s : State) : State :=
  let tell := fun (long : String) (s : State) =>
    (s.out ((if verbose then name ++ long.toList else name) ++ ['\n'])).withStatus 0
  let told := fun (front : String) (path : Text) (s : State) =>
    (s.out ((if verbose then name ++ front.toList ++ ' ' :: path else path) ++ ['\n'])).withStatus 0
  if Token.keywords.contains (String.ofList name) then tell " is a shell keyword" s
  else match s.aliases.lookup name with
  | some value =>
    if verbose then told " is an alias for" value s
    else (s.out ("alias ".toList ++ aliasText (name, value))).withStatus 0
  | none =>
    if (s.functions.lookup name).isSome then tell " is a shell function" s
    else if isSpecialCommand name then tell " is a special shell builtin" s
    else if isBuiltin name then tell " is a shell builtin" s
    else
      let tracked := !standard && s.hashed.contains name
      let found := if name.any (· == '/') then
          (if (s.resolve name).toOption.isSome then .ok name else .error .notFound, s)
        else program s standard name
      match found with
      | (.ok path, s) => told (if tracked then " is a tracked alias for" else " is") path s
      | (.error _, s) =>
        (if verbose then s.out (name ++ ": not found\n".toList) else s).withStatus 127

def type (args : List Text) (s : State) : State :=
  args.foldl (fun s name =>
    let s' := describe true false name s
    if s'.status = 0 then s'.withStatus s.status else s') (s.withStatus 0)

/-- Tell what the first of some names means. -/
def describeFirst (args : List Text) (s : State) : State :=
  withOptions "pvV" args s fun g s =>
    match g.last? ['v', 'V'], g.operands with
    | some letter, name :: _ => describe (letter == 'V') (g.has 'p') name s
    | _, _ => s.withStatus 0

end Exemplar.Shell.Builtin
