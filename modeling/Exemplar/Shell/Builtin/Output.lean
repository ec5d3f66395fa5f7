import Exemplar.Shell.Builtin.Variables
import Exemplar.Shell.Condition
import Exemplar.Shell.Format

/-!
# Commands that print and compare

Commands that print their arguments or a format, conditions as commands, and the limits of
the shell.
-/
namespace Exemplar.Shell.Builtin
open Text

def echo (args : List Text) (s : State) : State := (s.out (Format.echo args)).withStatus 0

/-- Print a format. Arguments that are no numbers are told of and count as far as they go. -/
def printf (args : List Text) (s : State) : State :=
  withOptions "" args s fun g s =>
    match g.operands with
    | [] => s.abandon "usage: printf format [arg ...]"
    | format :: args =>
      let p := Format.print format args
      let s := p.complaints.foldl (fun s c => s.complainBytes c) s
      match p.failure with
      | some message => (s.refuse message).out p.text
      | none => (s.out p.text).withStatus (if p.complaints.isEmpty then 0 else 1)

/-- A condition as a command. -/
def condition (bracketed : Bool) (args : List Text) (s : State) : State :=
  match Condition.ofArguments s bracketed args with
  | .ok b => s.withStatus (if b then 0 else 1)
  | .error message => s.refuse message

/-- A limit with its letter, its name, its unit and its value. -/
structure Limit where
  letter : Char
  name : String
  value : String

def limits : List Limit :=
  [⟨'t', "time(seconds)        ", "unlimited"⟩, ⟨'f', "file(blocks)         ", "unlimited"⟩,
    ⟨'d', "data(kbytes)         ", "unlimited"⟩, ⟨'s', "stack(kbytes)        ", "8192"⟩,
    ⟨'c', "coredump(blocks)     ", "0"⟩, ⟨'m', "memory(kbytes)       ", "unlimited"⟩,
    ⟨'l', "locked memory(kbytes) ", "8192"⟩, ⟨'p', "process              ", "128604"⟩,
    ⟨'n', "nofiles              ", "20000"⟩, ⟨'v', "vmemory(kbytes)      ", "unlimited"⟩,
    ⟨'w', "locks                ", "unlimited"⟩, ⟨'r', "rtprio               ", "0"⟩]

/-- Show limits. A new limit is taken and has no effect. -/
def ulimit (args : List Text) (s : State) : State :=
  withOptions "HSatfdscmlpnvwr" args s fun g s =>
    if g.has 'a' then
      (s.out (limits.flatMap fun l => (l.name ++ l.value ++ "\n").toList)).withStatus 0
    else match g.operands with
      | [] =>
        let letter := (g.last? (limits.map Limit.letter)).getD 'f'
        let shown := (limits.find? fun l => l.letter == letter).map fun l => l.value ++ "\n"
        (s.out (shown.getD "").toList).withStatus 0
      | [t] =>
        if t = "unlimited".toList || (digits? t).isSome then s.withStatus 0
        else s.abandon "bad number"
      | _ => s.abandon "too many arguments"

def times (s : State) : State :=
  (s.out "0m0.000000s 0m0.000000s\n0m0.000000s 0m0.000000s\n".toList).withStatus 0

end Exemplar.Shell.Builtin
