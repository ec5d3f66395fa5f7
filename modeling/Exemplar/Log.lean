/-!
# Log records

A record is a severity and a line of text. The verbosity of a run decides which
severities are shown.
-/
namespace Exemplar.Log

inductive Level
  | error
  | warn
  | info
  | debug
  | trace
  deriving DecidableEq, Repr

namespace Level

def name : Level → String
  | error => "ERROR"
  | warn => "WARN"
  | info => "INFO"
  | debug => "DEBUG"
  | trace => "TRACE"

/-- Severities count from the most urgent one. -/
def rank : Level → Nat
  | error => 1
  | warn => 2
  | info => 3
  | debug => 4
  | trace => 5

end Level

structure Record where
  level : Level
  text : String
  deriving DecidableEq, Repr

/-- The least urgent level that is shown; `none` shows nothing. -/
abbrev Threshold := Option Level

/-- Quiet runs show nothing; each step of verbosity shows one level more than warnings. -/
def threshold (verbosity : Nat) (quiet : Bool) : Threshold :=
  if quiet then none
  else match verbosity with
    | 0 => some .warn
    | 1 => some .info
    | 2 => some .debug
    | _ => some .trace

def Threshold.name : Threshold → String
  | none => "OFF"
  | some l => l.name

def Threshold.shows (t : Threshold) (l : Level) : Bool :=
  match t with
  | none => false
  | some least => l.rank ≤ least.rank

def Record.line (r : Record) : String := "[" ++ r.level.name ++ "] " ++ r.text ++ "\n"

/-- The lines of the records that are shown, in order. -/
def render (t : Threshold) (records : List Record) : String :=
  String.join ((records.filter fun r => t.shows r.level).map Record.line)

end Exemplar.Log
