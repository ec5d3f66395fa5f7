import Exemplar.Shell.Builtin.Options
import Exemplar.Shell.Redirection

/-!
# Programs

A program runs in a process of its own. It reads its standard input and files, and writes
to its streams. Options may stand anywhere in front of two dashes.
-/
namespace Exemplar.Shell.Program
open Text
open Builtin (Given)

/-- What a program does with its arguments. -/
abbrev Action := List Text → State → State

/-- A complaint begins with the name under which the program was called. -/
def say (message : Text) (s : State) : State := s.err (s.name ++ ": ".toList ++ message ++ ['\n'])

def fail (status : Nat) (message : Text) (s : State) : State := (say message s).withStatus status

/-- A complaint about the way in which a program was called. -/
def misused (status : Nat) (message : Text) (s : State) : State :=
  let s := say message s
  (s.err ("Try '".toList ++ s.name ++ " --help' for more information.\n".toList)).withStatus status

def inQuotes (t : Text) : Text := '\'' :: t ++ ['\'']

/-- What the system says about a path. -/
def cause : Files.SystemError → Text
  | e => (Opening.cause (match e with
    | .notADirectory => "Not a directory"
    | _ => "No such file or directory") e).toList

/-- Options that a program knows: letters, where a colon asks for a value, and long names
with the letters that they stand for. -/
structure Known where
  letters : String
  names : List (String × Char)
  /-- Options end with the first operand. -/
  strict : Bool

/-- What is wrong with the options of a program. -/
def optionTrouble : Builtin.OptionError → Text
  | .illegal c => "invalid option -- ".toList ++ inQuotes [c]
  | .noValue c => "option requires an argument -- ".toList ++ inQuotes [c]

/-- The option with a long name, which may be cut short. -/
def longOption? (known : Known) (name : Text) : Option Char :=
  let fits := known.names.filter fun n => name.isPrefixOf n.1.toList
  match fits.find? fun n => n.1.toList == name with
  | some n => some n.2
  | none =>
    match fits with
    | [n] => some n.2
    | _ => none

/-- Read the options of a program. -/
def readOptions (known : Known) : Nat → List Text → Except Text Given
  | 0, args => .ok ⟨[], args⟩
  | fuel + 1, args =>
    match args with
    | [] => .ok ⟨[], []⟩
    | ['-', '-'] :: rest => .ok ⟨[], rest⟩
    | ('-' :: '-' :: long) :: rest =>
      let name := long.takeWhile (· != '=')
      let given := long.drop (name.length + 1)
      match longOption? known name with
      | none => .error ("unrecognized option ".toList ++ inQuotes ("--".toList ++ name))
      | some c =>
        if Builtin.takesValue? known.letters.toList c = some true && name.length = long.length then
          match rest with
          | v :: rest => do
            let more ← readOptions known fuel rest
            return { more with options := (c, v) :: more.options }
          | [] => .error ("option ".toList ++ inQuotes ("--".toList ++ name) ++
            " requires an argument".toList)
        else do
          let more ← readOptions known fuel rest
          return { more with options := (c, given) :: more.options }
    | ('-' :: c :: r) :: rest =>
      match Builtin.letters known.letters.toList (c :: r) rest with
      | .error e => .error (optionTrouble e)
      | .ok first => do
        let more ← readOptions known fuel first.operands
        return { more with options := first.options ++ more.options }
    | arg :: rest =>
      if known.strict then .ok ⟨[], args⟩
      else do
        let more ← readOptions known fuel rest
        return { more with operands := arg :: more.operands }

/-- Carry out a program with its options; wrong ones leave a status. -/
def withOptions (status : Nat) (known : Known) (args : List Text) (s : State)
    (f : Given → State → State) : State :=
  match readOptions known (args.length + 1) args with
  | .ok g => f g s
  | .error message => misused status message s

def letters (known : String) : Known := ⟨known, [], false⟩

def natOf? (t : Text) : Option Nat := Arithmetic.natOf? 10 t

/-- A count with a unit behind it. -/
def sizeOf? (t : Text) : Option Nat :=
  let digits := t.takeWhile Char.isDigit
  let unit : Option Nat := match String.ofList (t.drop digits.length) with
    | "" => some 1
    | "b" => some 512
    | "k" => some 1024
    | "K" => some 1024
    | "kB" => some 1000
    | "M" => some 1048576
    | "MB" => some 1000000
    | "G" => some 1073741824
    | _ => none
  match natOf? digits, unit with
  | some n, some u => some (n * u)
  | _, _ => none

/-- A number in a column. -/
def column (width n : Nat) : Text :=
  let t := ofNat n
  List.replicate (width - t.length) ' ' ++ t

/-- The lines of a text. A last line without a break is one, too. -/
def linesOf (t : Text) : List Text :=
  let parts := splitBy (· == '\n') t
  if parts.getLast? = some [] then parts.dropLast else parts

def unlines (ls : List Text) : Text := ls.flatMap (· ++ ['\n'])

/-- What cannot be read of the standard input, if it cannot be read. -/
def inputTrouble? (s : State) : Option Text :=
  match s.channel 0 with
  | none => some "Bad file descriptor".toList
  | some (.file place) =>
    if s.world.tree.entryAt? place = some .directory then some "Is a directory".toList else none
  | some _ => none

/-- How much is taken of an input without end. -/
def endless : Nat := 1048576

/-- The content of a file, or what is wrong with it. -/
def content (path : Text) (s : State) : Except Text Text × State :=
  let fromInput := fun (s : State) =>
    match inputTrouble? s with
    | some t => (.error t, s)
    | none =>
      if s.channel 0 = some .zeros then (.ok (List.replicate endless '\x00'), s)
      else let (t, s) := s.readAll 0; (.ok t, s)
  if path = ['-'] then fromInput s
  else match Opening.device? s path with
    | some (.ok c) => let (t, s') := fromInput (s.setChannel 0 c); (t, { s with world := s'.world, flow := s'.flow })
    | some (.error e) => (.error e.toList, s)
    | none =>
      match s.resolve path with
      | .ok ⟨_, .file bytes⟩ => (.ok (ofBytes bytes), s)
      | .ok ⟨_, .directory⟩ => (.error "Is a directory".toList, s)
      | .ok _ => (.ok [], s)
      | .error e => (.error (cause e), s)

/-- How a program tells of a file that cannot be read. -/
abbrev Trouble := Text → Text → Text

def plainTrouble : Trouble := fun path cause => path ++ ": ".toList ++ cause

/-- Take the texts of files one after the other, or the standard input if there are none.
Files that cannot be read leave a complaint and a status. -/
def eachInput (trouble : Trouble) (status : Nat) (paths : List Text) (s : State)
    (f : Text → Text → State → State) : State :=
  let paths := if paths.isEmpty then [['-']] else paths
  paths.foldl (fun s path =>
    if !s.goesOn then s
    else match content path s with
      | (.ok t, s) => if s.goesOn then f path t s else s
      | (.error e, s) => fail status (trouble path e) s) s

/-- The texts of all files in one. -/
def allInput (trouble : Trouble) (status : Nat) (paths : List Text) (s : State) : Text × State :=
  let paths := if paths.isEmpty then [['-']] else paths
  let x := paths.foldl (fun (x : List Text × State) path =>
    if !x.2.goesOn then x
    else match content path x.2 with
      | (.ok t, s) => (t :: x.1, s)
      | (.error e, s) => (x.1, fail status (trouble path e) s)) ([], s)
  (x.1.reverse.flatten, x.2)

/-- Print, and end well unless something has gone wrong before. -/
def print (t : Text) (s : State) : State :=
  if !s.goesOn || t.isEmpty then s
  else match s.channel 1 with
    | none => fail 1 "write error: Bad file descriptor".toList s
    | some .full => fail 1 "write error: No space left on device".toList s
    | some (.source _) => fail 1 "write error: Bad file descriptor".toList s
    | some _ => s.out t

/-- A program that makes lines of the lines of its input. -/
def lineFilter (known : Known) (f : Given → List Text → List Text) : Action := fun args s =>
  withOptions 1 known args s fun g s =>
    let (t, s) := allInput plainTrouble 1 g.operands (s.withStatus 0)
    print (unlines (f g (linesOf t))) s

/-- Exchange the ends of lines with the character NUL. -/
def exchangeEnds (t : Text) : Text :=
  t.map fun c => if c = '\n' then '\x00' else if c = '\x00' then '\n' else c

/-- Where lines end in NUL, exchange it with the usual end. -/
def withEnds (g : Given) (t : Text) : Text := if g.has 'z' then exchangeEnds t else t

end Exemplar.Shell.Program
