import Exemplar.Example.Basic
import Exemplar.Execution.State
import Exemplar.Expected.Match
import Exemplar.Session.Basic

/-!
# Outcomes

What happened to one example: its state, the output, the comparison if one was made, and
for an errored example the trouble that kept it from a verdict.
-/
namespace Exemplar.Execution

/-- Why a session can no longer be used. -/
inductive Breakage
  | failed (e : Session.Error)
  | timedOut (language : String) (line : Nat) (limit : Duration)
  | exited (language : String) (line : Nat)
  deriving DecidableEq, Repr

/-- Time limits are told with one decimal place. -/
def limitText (limit : Duration) : String := s!"timed out after {limit.fixed 1} seconds"

def Breakage.message : Breakage → String
  | failed e => e.message
  | timedOut language line limit =>
    s!"{language} session was closed: the example at line {line} {limitText limit}"
  | exited language line =>
    s!"{language} session was closed: the interpreter exited at line {line}"

/-- Why an example has no verdict. -/
inductive Trouble
  | nothingCaptured (name : Text)
  | repeatedTag (e : Expected.Pattern.RepeatedTag)
  | session (e : Session.Error)
  | timedOut (limit : Duration)
  | exited
  /-- The session broke at an earlier example. -/
  | broken (b : Breakage)
  | panicked
  deriving DecidableEq, Repr

def Trouble.message : Trouble → String
  | nothingCaptured name => s!"nothing was captured as <{String.ofList name}> to paste"
  | repeatedTag e => e.message
  | session e => e.message
  | timedOut limit => limitText limit
  | exited => "the interpreter exited"
  | broken b => b.message
  | panicked => "session thread panicked"

structure Outcome where
  subject : Example
  state : State
  /-- Output of the interpreter, perhaps not all of it for an errored example. -/
  output : Option Text
  pattern : Option Expected.Pattern
  result : Option Expected.MatchResult
  trouble : Option Trouble
  deriving DecidableEq, Repr

namespace Outcome

/-- An example that was not reached. -/
def unreached (e : Example) : Outcome := ⟨e, .pending, none, none, none, none⟩

def skipped (e : Example) : Outcome := ⟨e, .skipped, none, none, none, none⟩

def errored (e : Example) (output : Option Text) (t : Trouble) : Outcome :=
  ⟨e, .conclude .errored, output, none, none, some t⟩

/-- An example whose output is not compared. -/
def accepted (e : Example) (output : Text) : Outcome :=
  ⟨e, .conclude .passed, some output, none, none, none⟩

/-- An example whose output was compared. -/
def compared (e : Example) (output : Text) (p : Expected.Pattern) : Outcome :=
  let r := p.matchOutput output
  ⟨e, .conclude (if r.passed then .passed else .failed), some output, some p, some r, none⟩

end Outcome

end Exemplar.Execution
