import Exemplar.CommandLine.Config
import Exemplar.Execution.Run
import Exemplar.Harvest
import Exemplar.Pool
import Exemplar.Report.Render

/-!
# Checking files

A file is harvested, its examples are run, and the outcomes are told. Several workers may
check files; what they find is told in the order of the files. A file that cannot be
checked ends the run, and so does one with a failure if the run is to stop at the first.
-/
namespace Exemplar
open CommandLine Execution Report

/-- A file that has been checked. -/
structure CheckedFile where
  summary : Summary
  text : Text
  records : List Log.Record

/-- What checking files depends on. -/
structure Checker (σ : Type) where
  config : Config
  table : Prompt.Table
  tree : Files.Tree
  interpreters : Session.Interpreters σ
  /-- Time that is told for a file. -/
  elapsed : Path → Duration

namespace Checker
variable {σ : Type}

/-- What is told of a file whose examples are only counted. -/
def describe (c : Checker σ) (path : Path) (h : Harvest) : CheckedFile :=
  let total := h.examples.length
  let problems := h.problems.length
  ⟨.found path total problems (c.elapsed path),
   if c.config.quiet then [] else dryText path total problems,
   h.records⟩

def runFile (c : Checker σ) (path : Path) (h : Harvest) : CheckedFile :=
  let run := runExamples c.interpreters c.config.settings h.examples
  let summary := Summary.ofOutcomes path run.outcomes h.problems.length (c.elapsed path)
  ⟨summary,
   if c.config.quiet then [] else failures path c.config.diff run.outcomes ++ summary.text,
   h.records ++ run.records⟩

def checkFile (c : Checker σ) (path : Path) : Except Harvest.Failure CheckedFile :=
  match Harvest.ofFile c.tree c.table c.config.searchLineComments path with
  | .error e => .error e
  | .ok h => .ok (if c.config.dry then c.describe path h else c.runFile path h)

end Checker

/-- A line for standard error. -/
inductive Notice
  | record (r : Log.Record)
  | failure (text : String)
  deriving DecidableEq, Repr

def Notice.render (t : Log.Threshold) : Notice → String
  | record r => Log.render t [r]
  | failure text => "Error: " ++ text ++ "\n"

/-- What a run prints, and its verdict. -/
structure RunReport where
  output : Text
  notices : List Notice
  verdict : Verdict

namespace RunReport

/-- Tell of the next file. -/
def add (r : RunReport) (path : Path) : Except Harvest.Failure CheckedFile → RunReport
  | .ok f =>
    ⟨r.output ++ f.text, r.notices ++ f.records.map Notice.record,
      r.verdict.worst f.summary.verdict⟩
  | .error e =>
    ⟨r.output, r.notices ++ [.failure (String.ofList path ++ ": " ++ e.message)], .fatal⟩

end RunReport

/-- Whether a file ends the run. -/
def halts (failFast : Bool) : Except Harvest.Failure CheckedFile → Bool
  | .error _ => true
  | .ok f => failFast && f.summary.verdict != .ok

/-- Check files in order and tell of each, as a single worker does. -/
def checkFrom (check : Path → Except Harvest.Failure CheckedFile) (failFast : Bool)
    (r : RunReport) : List Path → RunReport
  | [] => r
  | p :: ps =>
    let result := check p
    let r' := r.add p result
    if halts failFast result then r' else checkFrom check failFast r' ps

/-- Checking files as the tasks of a pool. -/
def tasks (check : Path → Except Harvest.Failure CheckedFile) (failFast : Bool)
    (files : List Path) : Tasks (Except Harvest.Failure CheckedFile) :=
  ⟨files.length, fun i => check (files.getD i []), halts failFast⟩

/-- Tell of the files whose results a pool has released. -/
def RunReport.ofReleased (r : RunReport) (files : List Path)
    (p : Pool (Except Harvest.Failure CheckedFile)) : RunReport :=
  (files.zip p.released).foldl (fun r x => r.add x.1 x.2) r

/-- Why a run could not begin. -/
inductive RunError
  | config (e : ConfigError)
  | notFound (e : Files.NotFound)
  | noFiles
  deriving DecidableEq, Repr

def RunError.message : RunError → String
  | config e => e.message
  | notFound e => e.message
  | noFiles => "No files to check"

/-- What the log says about the files that were found. -/
def foundRecord (files : List Path) : Notice :=
  .record ⟨.debug, s!"{files.length} file(s) to check"⟩

/-- A run that could not begin, with what was noticed before. -/
structure Refusal where
  notices : List Notice
  cause : RunError

/-- Discover the files of a configuration and check them. -/
def run {σ : Type} (config : Config) (tree : Files.Tree) (interpreters : Session.Interpreters σ)
    (elapsed : Path → Duration) : Except Refusal RunReport :=
  match config.table with
  | .error e => .error ⟨[], .config e⟩
  | .ok table =>
    match Files.discover tree config.files config.skip with
    | .error e => .error ⟨[], .notFound e⟩
    | .ok [] => .error ⟨[foundRecord []], .noFiles⟩
    | .ok files =>
      let checker : Checker σ := ⟨config, table, tree, interpreters, elapsed⟩
      let pool := Pool.finish (tasks checker.checkFile config.failFast files)
        (min config.jobs files.length)
      .ok (RunReport.ofReleased ⟨[], [foundRecord files], .ok⟩ files pool)

end Exemplar
