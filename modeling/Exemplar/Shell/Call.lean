import Exemplar.Shell.Lookup
import Exemplar.Shell.Redirection

/-!
# Simple commands

The words of a simple command are expanded first. Its first field tells how the others are
expanded, and whether its assignments last.
-/
namespace Exemplar.Shell
open Text

/-- The fields of a simple command while they are read. -/
structure Call where
  fields : List Text
  /-- Words that are not expanded yet. -/
  words : List Word
  /-- Where the name of the command stands. -/
  index : Nat
  /-- Functions are looked at. -/
  functions : Bool
  /-- Programs are looked for where every system has them. -/
  standard : Bool
  /-- A refusal ends the shell. -/
  special : Bool
  /-- Assignments last as long as the command. -/
  isLocal : Bool
  /-- Streams stay as they are tied. -/
  keeps : Bool

namespace Call

def name (c : Call) : Text := (c.fields[c.index]?).getD []

def arguments (c : Call) : List Text := c.fields.drop (c.index + 1)

/-- Expand words up to the first one that gives a field. -/
def fill (run : Expansion.Runner) : Nat → Call → State → Call × State
  | 0, c, s => (c, s)
  | fuel + 1, c, s =>
    match c.words with
    | [] => (c, s)
    | w :: words =>
      let (found, s) := Expansion.fieldsOf run s w
      let c := { c with fields := c.fields ++ found, words }
      if !s.goesOn || !found.isEmpty then (c, s) else fill run fuel c s

/-- Make sure that there is a field at an index, if words can give one. -/
def reach (run : Expansion.Runner) (index : Nat) (c : Call) (s : State) : Call × State :=
  if index < c.fields.length then (c, s) else fill run (c.words.length + 1) c s

/-- Look behind a field that only tells how the command is looked for: the command stands
behind its options, unless these ask for something else. -/
def behind (run : Expansion.Runner) : Nat → Nat → Bool → Call → State → Option Call × Call × State
  | 0, _, _, c, s => (none, c, s)
  | fuel + 1, index, standard, c, s =>
    let (c, s) := reach run index c s
    let found : Call := { c with index, functions := false, standard }
    match c.fields[index]? with
    | none => (none, c, s)
    | some ['-', '-'] =>
      let (c, s) := reach run (index + 1) c s
      if index + 1 < c.fields.length then
        (some { c with index := index + 1, functions := false, standard }, c, s)
      else (none, c, s)
    | some ('-' :: letter :: letters) =>
      if (letter :: letters).all (· == 'p') then behind run fuel (index + 1) true c s
      else (none, c, s)
    | some _ => (some found, c, s)

/-- Find out what the command is. The mark tells whether its arguments may be assignments. -/
def identify (run : Expansion.Runner) : Nat → Bool → Call → State → Bool × Call × State
  | 0, _, c, s => (false, c, s)
  | fuel + 1, isFirst, c, s =>
    let name := c.name
    let isFunction := c.functions && (s.functions.lookup name).isSome
    if isFunction || !Builtin.isBuiltin name then
      (false, { c with isLocal := true }, s)
    else
      let special := if isFirst then Builtin.isSpecialCommand name else c.special
      let c := { c with special, isLocal := !special, keeps := name = "exec".toList }
      if name ≠ "command".toList then (Builtin.takesAssignments name, c, s)
      else match behind run (c.words.length + c.fields.length + 2) (c.index + 1) c.standard c s with
        | (some c, _, s) => if s.goesOn then identify run fuel false c s else (false, c, s)
        | (none, c, s) => (false, c, s)

/-- Expand all words of a simple command. -/
def read (run : Expansion.Runner) (words : List Word) (s : State) : Call × State :=
  let start : Call := ⟨[], words, 0, true, false, false, false, false⟩
  let (c, s) := fill run (words.length + 1) start s
  if !s.goesOn || c.fields.isEmpty then (c, s)
  else
    let (declares, c, s) := identify run (words.length + c.fields.length + 2) true c s
    let x := c.words.foldl (fun (x : List (List Text) × State) w =>
      if !x.2.goesOn then x
      else if declares && w.assignment?.isSome then
        let (t, s) := Expansion.value run x.2 w
        ([t] :: x.1, s)
      else
        let (found, s) := Expansion.fieldsOf run x.2 w
        (found :: x.1, s)) ([], s)
    ({ c with fields := c.fields ++ x.1.reverse.flatten, words := [] }, x.2)

/-- Carry out assignments in front of a command, and show them. -/
def assignAll (run : Expansion.Runner) (c : Call) (assignments : List (Text × Word)) (s : State) :
    List Text × State :=
  let x := assignments.foldl (fun (x : List Text × State) a =>
    if !x.2.goesOn then x
    else
      let (t, s) := Expansion.value run x.2 a.2
      if !s.goesOn then (x.1, s)
      else
        let s := if c.isLocal then Builtin.makeLocal a.1 (some t) true s
          else
            let s := s.assign a.1 t
            if c.keeps && c.index + 1 < c.fields.length && s.goesOn then
              s.adjust a.1 fun v => { v with exported := true }
            else s
        ((a.1 ++ '=' :: t) :: x.1, s)) ([], s)
  (x.1.reverse, x.2)

/-- Give back what was kept, until so many frames are left. -/
def unwind (count : Nat) (s : State) : State :=
  let excess := s.saved.length - count
  { (s.saved.take excess).flatten.foldl State.restore s with saved := s.saved.drop excess }

/-- The text in front of traced commands as a word. -/
def promptWord (t : Text) : Word :=
  let isPlain := !t.any fun c => c == '$' || c == '\\' || c == Grammar.backquote
  if isPlain then [.literal true t]
  else match (Grammar.parts (t.length * 2 + 100) (.document ['\x00'] false) false 0 []).run
      (Reader.ofText t 1 true) with
    | .ok (parts, _) => Word.ofParts parts
    | .error _ => [.literal true t]

/-- Show a command before it is carried out. -/
def trace (run : Expansion.Runner) (shown : List Text) (s : State) : State :=
  if !s.isOn .xtrace then s
  else
    let quiet := { s with settings := Setting.switch .xtrace false s.settings }
    let (front, s') := Expansion.document run quiet (promptWord (s.value "PS4".toList))
    { s' with settings := s.settings }.err (front ++ (shown.intersperse [' ']).flatten ++ ['\n'])

end Call

end Exemplar.Shell
