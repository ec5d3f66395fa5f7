import Exemplar.Execution.Outcome
import Exemplar.Files.Path

/-!
# Summaries

The outcomes of a file are counted by state. The counts give a verdict, verdicts are
ordered by severity, and each has a label and an exit code.
-/
namespace Exemplar.Report
open Execution

inductive Verdict
  | ok
  | failed
  /-- Some example errored or was not reached. -/
  | aborted
  /-- The run could not go on. -/
  | fatal
  deriving DecidableEq, Repr

namespace Verdict

def exitCode : Verdict → Nat
  | ok => 0
  | failed => 1
  | aborted => 2
  | fatal => 3

def label : Verdict → String
  | ok => "PASS"
  | failed => "FAIL"
  | aborted => "ABORT"
  | fatal => "ERROR"

/-- The more severe of two verdicts. -/
def worst (a b : Verdict) : Verdict := if a.exitCode < b.exitCode then b else a

end Verdict

structure Summary where
  path : Path
  total : Nat
  passed : Nat
  failed : Nat
  errored : Nat
  skipped : Nat
  notRun : Nat
  problems : Nat
  elapsed : Duration
  deriving DecidableEq, Repr

namespace Summary

def count (outcomes : List Outcome) (s : State) : Nat :=
  outcomes.countP fun o => o.state == s

def ofOutcomes (path : Path) (outcomes : List Outcome) (problems : Nat) (elapsed : Duration) :
    Summary where
  path := path
  total := outcomes.length
  passed := count outcomes .passed
  failed := count outcomes .failed
  errored := count outcomes .errored
  skipped := count outcomes .skipped
  notRun := count outcomes .pending + count outcomes .running
  problems := problems
  elapsed := elapsed

/-- Examples that were found but are not to be run. -/
def found (path : Path) (total problems : Nat) (elapsed : Duration) : Summary :=
  ⟨path, total, 0, 0, 0, 0, 0, problems, elapsed⟩

def ran (s : Summary) : Nat := s.passed + s.failed + s.errored

def verdict (s : Summary) : Verdict :=
  if 0 < s.errored ∨ 0 < s.notRun then .aborted
  else if 0 < s.failed then .failed
  else .ok

end Summary

end Exemplar.Report
