/-!
# The state of an example

An example waits, runs, and ends with a verdict, or is skipped without running. Steps
that leave this order are refused and change nothing.
-/
namespace Exemplar.Execution

inductive State
  | pending
  | running
  | passed
  | failed
  | errored
  | skipped
  deriving DecidableEq, Repr

namespace State

def name : State → String
  | pending => "PENDING"
  | running => "RUNNING"
  | passed => "PASSED"
  | failed => "FAILED"
  | errored => "ERRORED"
  | skipped => "SKIPPED"

def all : List State := [pending, running, passed, failed, errored, skipped]

def isTerminal : State → Bool
  | pending => false
  | running => false
  | _ => true

/-- The states in which a run can end. -/
def isVerdict : State → Bool
  | passed => true
  | failed => true
  | errored => true
  | _ => false

end State

structure TransitionError where
  source : State
  target : State
  deriving DecidableEq, Repr

def TransitionError.message (e : TransitionError) : String :=
  s!"illegal example transition {e.source.name} -> {e.target.name}"

/-- A step from one state to another, allowed from one state only. -/
def State.move (s target allowed : State) : Except TransitionError State :=
  if s = allowed then .ok target else .error ⟨s, target⟩

namespace State

def start (s : State) : Except TransitionError State := s.move running pending

def skip (s : State) : Except TransitionError State := s.move skipped pending

def finish (s verdict : State) : Except TransitionError State :=
  if verdict.isVerdict then s.move verdict running else .error ⟨s, verdict⟩

/-- The state after a run that was started from the beginning and ended with a verdict. -/
def conclude (verdict : State) : State :=
  match pending.start with
  | .error _ => pending
  | .ok s =>
    match s.finish verdict with
    | .ok s' => s'
    | .error _ => s

@[simp] theorem conclude_of_isVerdict {v : State} (h : v.isVerdict = true) : conclude v = v := by
  simp [conclude, start, move, finish, h]

end State

end Exemplar.Execution
