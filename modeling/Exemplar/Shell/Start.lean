import Exemplar.Shell.Builtin.Variables
import Exemplar.Shell.Lookup

/-!
# How a shell is started

The arguments of a shell are settings, then what it carries out: a text, a file, or its
input. The rest are the arguments of the script.
-/
namespace Exemplar.Shell

/-- Where the commands of a shell come from. -/
inductive Origin
  | text (t : Text)
  | file (path : Text)
  | input
  deriving DecidableEq, Repr

structure Start where
  origin : Origin
  name : Text
  arguments : List Text
  settings : List Setting
  /-- The settings are listed before anything else. -/
  listed : Bool
  deriving DecidableEq, Repr

namespace Start

/-- Settings and the arguments behind them. -/
structure Read where
  settings : List Setting
  /-- A text follows. -/
  text : Bool
  listed : Bool
  rest : List Text

/-- The letters of an argument. -/
def letters (on : Bool) : Text → List Text → Read → Except Text Read
  | [], args, r => .ok { r with rest := args }
  | c :: cs, args, r =>
    if c = 'c' then letters on cs args { r with text := true }
    else if c = 'l' then letters on cs args r
    else if c = 'o' then
      match args with
      | [] => letters on cs [] { r with listed := true }
      | name :: args =>
        match Setting.ofName? (String.ofList name) with
        | some x => letters on cs args { r with settings := Setting.switch x on r.settings }
        | none => .error ("Illegal option -o ".toList ++ name)
    else match Setting.ofLetter? c with
      | some x => letters on cs args { r with settings := Setting.switch x on r.settings }
      | none => .error ("Illegal option -".toList ++ [c])

/-- All settings in front of other arguments. -/
def readSettings : Nat → Read → Except Text Read
  | 0, r => .ok r
  | fuel + 1, r =>
    match r.rest with
    | ['-'] :: args => .ok { r with rest := args }
    | ['-', '-'] :: args => .ok { r with rest := args }
    | ('-' :: cs) :: args => do readSettings fuel (← letters true cs args r)
    | ('+' :: cs) :: args => do readSettings fuel (← letters false cs args r)
    | _ => .ok r

/-- Read the arguments of a shell. -/
def ofArguments (name : Text) (args : List Text) : Except Text Start := do
  let r ← readSettings (args.length + 1) ⟨[], false, false, args⟩
  if r.text then
    match r.rest with
    | [] => .error "-c requires an argument".toList
    | t :: [] => return ⟨.text t, name, [], r.settings, r.listed⟩
    | t :: name :: args => return ⟨.text t, name, args, r.settings, r.listed⟩
  else if r.rest.isEmpty || r.settings.contains .stdin then
    return ⟨.input, name, r.rest, Setting.switch .stdin true r.settings, r.listed⟩
  else
    match r.rest with
    | path :: args => return ⟨.file path, path, args, r.settings, r.listed⟩
    | [] => return ⟨.input, name, [], r.settings, r.listed⟩

/-- Variables that every shell has. -/
def ownVariables (directory : Text) (parent : Nat) : List (Text × Variable) :=
  [("IFS", " \t\n"), ("OPTIND", "1"), ("PATH", String.ofList Builtin.standardPath),
    ("PPID", toString parent), ("PS1", "# "), ("PS2", "> "), ("PS4", "+ ")].map
      (fun e => (e.1.toList, ⟨some e.2.toList, false, false⟩)) ++
    [("PWD".toList, ⟨some directory, true, false⟩)]

/-- Variables of a shell that is given an environment. The working directory is taken from it
only if it leads to where the shell is. -/
def withEnvironment (isHere : Text → Bool) (given own : List (Text × Variable)) :
    List (Text × Variable) :=
  let ignored := fun (e : Text × Variable) =>
    match String.ofList e.1 with
    | "IFS" => true
    | "OPTIND" => true
    | "PPID" => true
    | "PWD" => !e.2.value.any isHere
    | _ => false
  (given.filter fun e => !ignored e).foldl (fun own e => State.replace e.1 e.2 own) own

/-- Variables are handed on row by row; their names tell in which row they stand. -/
def rowOf (name : Text) : Nat :=
  (name.foldl (fun n c => n + c.toNat) (16 * (name.head?.map Char.toNat).getD 0)) % 39

/-- The variables that programs are given. -/
def handedOn (given : List (Text × Variable)) : List (Text × Variable) :=
  (given.filter fun e => e.2.exported && e.2.value.isSome).mergeSort fun a b =>
    rowOf a.1 ≤ rowOf b.1

end Start

namespace State

/-- What a program that the shell starts is given of its state. -/
def asProgram (name : Text) (s : State) : State :=
  { s with
    bindings := Start.handedOn s.bindings
    functions := []
    aliases := []
    arguments := []
    name
    settings := []
    traps := s.traps.filter fun t => t.2.isEmpty
    due := []
    saved := []
    optionPlace := ⟨1, none⟩
    hashed := []
    status := 0
    innerStatus := 0
    statusBefore := none
    command := none
    loops := 0
    depth := 0
    known := []
    begun := []
    lastJob := none }

/-- A shell that is started as a program, in front of its first command. -/
def asShell (x : Start) (s : State) : State :=
  let own := Start.ownVariables (Builtin.pathOf s.directory) (s.parents.head?.getD 1)
  let isHere := fun (path : Text) => path.head? = some '/' && match s.resolve path with
    | .ok r => r.place == s.directory
    | .error _ => false
  { s with
    bindings := Start.withEnvironment isHere s.bindings own
    arguments := x.arguments
    name := x.name
    settings := x.settings
    line := 1
    readLine := 1
    inputLine := 1 }

end State

end Exemplar.Shell
