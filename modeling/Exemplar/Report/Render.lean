import Exemplar.Diff.Listing
import Exemplar.Report.Summary

/-!
# Texts of a report

A failed example is shown with both texts or their difference, an errored one with the
reason and the output so far. A file ends with its counts.
-/
namespace Exemplar.Report
open Execution Text

def separator : Text := List.replicate 70 '*'

def line (t : Text) : Text := t ++ ['\n']

def header (path : Path) (o : Outcome) (title : String) : Text :=
  line separator ++
    line ("File ".toList ++ path ++ ", line ".toList ++ ofNat o.subject.line ++ ", in ".toList ++
      o.subject.language.toList) ++
    line (title.toList ++ [':']) ++
    o.subject.statements.flatMap fun s => line ("    ".toList ++ s)

/-- The expected text and the output that are shown for a failed example. -/
def compared (o : Outcome) : Text × Text :=
  match o.pattern, o.result with
  | some p, some r => (r.expectedText p, r.actual)
  | _, _ => (o.subject.expectedText, o.output.getD [])

def reason (o : Outcome) : String :=
  match o.trouble with
  | some t => t.message
  | none => "unknown error"

/-- Output that is not blank, under its title. -/
def outputSoFar (o : Outcome) : Text :=
  match o.output with
  | some t => if allBlank t then [] else line ("Output so far:\n".toList ++ trimEnd t)
  | none => []

/-- What is told of an example; nothing unless it failed or errored. -/
def failure? (path : Path) (mode : Diff.Mode) (o : Outcome) : Option Text :=
  match o.state with
  | .failed =>
    let texts := compared o
    some (header path o "Failed example" ++ Diff.render mode texts.1 texts.2)
  | .errored =>
    some (header path o "Errored example" ++ line (reason o).toList ++ outputSoFar o)
  | _ => none

def failures (path : Path) (mode : Diff.Mode) (outcomes : List Outcome) : Text :=
  (outcomes.filterMap (failure? path mode)).flatten

namespace Summary

/-- The counts of a run. Times are told with two decimal places. -/
def text (s : Summary) : Text :=
  "File ".toList ++ s.path ++
    s!", {s.ran}/{s.total} test ran in {s.elapsed.fixed 2} seconds\n".toList ++
    s!"[{s.verdict.label}] Pass: {s.passed} Fail: {s.failed + s.errored} Skip: {s.skipped}\n".toList

end Summary

/-- What was found in a file that is not run. -/
def dryText (path : Path) (examples problems : Nat) : Text :=
  "File ".toList ++ path ++ s!", {examples} example(s) found".toList ++
    (if problems = 0 then [] else s!", {problems} problem(s) skipped".toList) ++ ['\n']

end Exemplar.Report
