import Exemplar.Proofs.Check.Reporting
import Exemplar.Proofs.Execution.Alternation

/-!
# Courses of a run

Two things alternate in a run: the workers that take files, and within a file its languages. A
course is one way in which all of it can go. The exit code of every course certifies what became of
the files: nothing but a run in which each example of each file passed or was skipped ends with
zero.
-/
namespace Exemplar
open Execution Report

namespace Checker
variable {σ : Type}

def harvest (c : Checker σ) (path : Path) : Except Harvest.Failure Harvest :=
  Harvest.ofFile c.tree c.table c.config.searchLineComments path

/-- What is told of a file after its examples were run. -/
def tell (c : Checker σ) (path : Path) (h : Harvest) (r : FileRun) : CheckedFile :=
  let summary := Summary.ofOutcomes path r.outcomes h.problems.length (c.elapsed path)
  ⟨summary,
   if c.config.quiet then [] else failures path c.config.diff r.outcomes ++ summary.text,
   h.records ++ r.records⟩

/-- Check a file whose examples come to a given run. -/
def checkWith (c : Checker σ) (runs : Path → FileRun) (path : Path) :
    Except Harvest.Failure CheckedFile :=
  (c.harvest path).map fun h => c.tell path h (runs path)

/-- The run of a file with one language after the other. -/
def ownRun (c : Checker σ) (path : Path) : FileRun :=
  match c.harvest path with
  | .ok h => runExamples c.interpreters c.config.settings h.examples
  | .error _ => ⟨[], [], []⟩

variable {c : Checker σ} {files : List Path}

theorem checkFile_eq (hdry : c.config.dry = false) : c.checkFile = c.checkWith c.ownRun := by
  funext path
  rw [checkFile, checkWith, ownRun, harvest]
  cases Harvest.ofFile c.tree c.table c.config.searchLineComments path with
  | error e => rfl
  | ok h =>
    rw [hdry]
    rfl

lemma checkWith_eq_error {runs : Path → FileRun} {f : Path} {e : Harvest.Failure} :
    c.checkWith runs f = .error e ↔ c.harvest f = .error e := by
  rw [checkWith]
  cases c.harvest f <;> simp [Except.map]

/-- One way in which a run over files can go: what comes of each file whose languages run beside
each other, and a pool that some alternation of the workers has brought to its end. The sessions
of a file may behave in any way, also otherwise than those of another file. -/
structure Course (c : Checker σ) (files : List Path) where
  runs : Path → FileRun
  possible : ∀ f ∈ files, ∀ h, c.harvest f = .ok h → ∃ is : Session.Interpreters σ,
    Possible is c.config.settings h.examples (runs f).outcomes
  pool : Pool (Except Harvest.Failure CheckedFile)
  ends : Ends (c.checkWith runs) c.config.failFast c.config.jobs files pool

namespace Course

/-- The files that are told of. -/
def reported (k : c.Course files) : List Path := files.take k.pool.released.length

def report (k : c.Course files) : RunReport := .ofReleased (.begun files) files k.pool

def exitCode (k : c.Course files) : Nat := k.report.verdict.exitCode

/-- The course in which languages and workers go on one after the other. -/
def own (c : Checker σ) (files : List Path) : c.Course files where
  runs := c.ownRun
  possible := fun f _ h hh => by
    rw [ownRun, hh]
    exact ⟨c.interpreters, possible_runExamples _ _ _⟩
  pool := Pool.finish (tasks (c.checkWith c.ownRun) c.config.failFast files)
    (min c.config.jobs files.length)
  ends := ends_finish _ _ _ _

/-- What the exit code says of a course. -/
structure Certified (k : c.Course files) : Prop where
  /-- The outcomes of a file are those of its examples, one for each. -/
  outcomes : ∀ f ∈ files, ∀ h, c.harvest f = .ok h →
    Complete c.config.settings h.examples (k.runs f).outcomes
  /-- Every file was harvested, and each of its examples passed or was skipped. -/
  zero_iff : k.exitCode = 0 ↔ ∀ f ∈ files, ∃ h, c.harvest f = .ok h ∧
    ∀ o ∈ (k.runs f).outcomes, o.state = .passed ∨ o.state = .skipped
  /-- No file is left out of such a run. -/
  reported_of_zero : k.exitCode = 0 → k.reported = files
  three_iff : k.exitCode = 3 ↔ ∃ f ∈ k.reported, ∃ e, c.harvest f = .error e
  /-- Some example was errored or not reached. -/
  two_iff : k.exitCode = 2 ↔ k.exitCode ≠ 3 ∧ ∃ f ∈ k.reported, ∃ h, c.harvest f = .ok h ∧
    ∃ o ∈ (k.runs f).outcomes, o.state = .errored ∨ o.state = .pending
  one_iff : k.exitCode = 1 ↔ k.exitCode ≠ 0 ∧ k.exitCode ≠ 2 ∧ k.exitCode ≠ 3
  /-- The counts of a file add up to the number of its examples. -/
  total : ∀ f ∈ k.reported, ∀ h, c.harvest f = .ok h →
    let s := (c.tell f h (k.runs f)).summary
    s.passed + s.failed + s.errored + s.skipped + s.notRun = s.total ∧
      s.total = h.examples.length

lemma complete (k : c.Course files) {f : Path} (hf : f ∈ files) {h : Harvest}
    (hh : c.harvest f = .ok h) :
    Complete c.config.settings h.examples (k.runs f).outcomes := by
  obtain ⟨is, hpossible⟩ := k.possible f hf h hh
  exact hpossible.complete

lemma verdictOf_eq_ok (k : c.Course files) (f : Path) :
    RunReport.verdictOf (c.checkWith k.runs f) = .ok ↔ ∃ h, c.harvest f = .ok h ∧
      ∀ o ∈ (k.runs f).outcomes, o.state = .passed ∨ o.state = .skipped := by
  rw [checkWith]
  cases c.harvest f with
  | error e => simp [Except.map, RunReport.verdictOf]
  | ok h => simp [Except.map, RunReport.verdictOf, tell, Summary.verdict_eq_ok_iff]

lemma verdictOf_eq_aborted (k : c.Course files) {f : Path} (hf : f ∈ files) :
    RunReport.verdictOf (c.checkWith k.runs f) = .aborted ↔ ∃ h, c.harvest f = .ok h ∧
      ∃ o ∈ (k.runs f).outcomes, o.state = .errored ∨ o.state = .pending := by
  rw [checkWith]
  cases hh : c.harvest f with
  | error e => simp [Except.map, RunReport.verdictOf]
  | ok h =>
    have hcomplete := k.complete hf hh
    have hverdict : (c.tell f h (k.runs f)).summary.verdict = .aborted ↔
        ∃ o ∈ (k.runs f).outcomes, o.state = .errored ∨ o.state = .pending := by
      rw [tell, Summary.verdict_eq_aborted_iff]
      refine exists_congr fun o => and_congr_right fun ho => ?_
      simp [(hcomplete.consistent o ho).not_running]
    simpa [Except.map, RunReport.verdictOf] using hverdict

lemma reported_eq_take (k : c.Course files) {n : Nat} (hn : n ≤ files.length)
    (h : k.pool.released = (files.take n).map (c.checkWith k.runs)) :
    k.reported = files.take n := by
  rw [reported, h, List.length_map, List.length_take, Nat.min_eq_left hn]

/-- The verdict is the worst of those that are told of. -/
lemma isWorst (k : c.Course files) (hj : 1 ≤ c.config.jobs) :
    Verdict.IsWorst (k.reported.map fun f => RunReport.verdictOf (c.checkWith k.runs f))
      k.report.verdict := by
  obtain ⟨n, hn, hreleased, -⟩ := k.ends.exists_take hj
  rw [k.reported_eq_take hn hreleased, report, RunReport.ofReleased_take _ hreleased]
  exact RunReport.isWorst_addAll_begun _ files _

/-- If nothing is wrong, no file is left out. -/
lemma reported_eq (k : c.Course files) (hj : 1 ≤ c.config.jobs)
    (h : ∀ f ∈ k.reported, RunReport.verdictOf (c.checkWith k.runs f) = .ok) :
    k.reported = files := by
  obtain ⟨n, hn, hreleased, hstop⟩ := k.ends.exists_take hj
  rw [k.reported_eq_take hn hreleased] at h ⊢
  exact List.take_of_length_le
    (length_le_of_go hstop fun f hf => RunReport.halts_of_ok (h f hf))

theorem certified (k : c.Course files) (hj : 1 ≤ c.config.jobs) : k.Certified := by
  have hworst := k.isWorst hj
  have hmem : ∀ f ∈ k.reported, f ∈ files := fun f hf => List.mem_of_mem_take hf
  have hzero : k.exitCode = 0 ↔
      ∀ f ∈ k.reported, RunReport.verdictOf (c.checkWith k.runs f) = .ok := by
    refine Verdict.exitCode_inj (w := .ok).trans (hworst.eq_ok_iff.trans ?_)
    simp
  have hthree : k.exitCode = 3 ↔ k.report.verdict = .fatal := Verdict.exitCode_inj (w := .fatal)
  refine ⟨fun f hf h hh => k.complete hf hh, ?_, fun h => k.reported_eq hj (hzero.1 h), ?_, ?_, ?_,
    fun f hf h hh => ?_⟩
  · rw [hzero]
    constructor
    · intro h f hf
      refine (k.verdictOf_eq_ok f).1 (h f ?_)
      rwa [k.reported_eq hj h]
    · intro h f hf
      exact (k.verdictOf_eq_ok f).2 (h f (hmem f hf))
  · rw [hthree, hworst.eq_fatal_iff, List.mem_map]
    simp only [RunReport.verdictOf_eq_fatal, checkWith_eq_error]
  · rw [Ne, hthree]
    refine Verdict.exitCode_inj (w := .aborted).trans (hworst.eq_aborted_iff.trans ?_)
    refine and_congr_right fun _ => ?_
    rw [List.mem_map]
    exact exists_congr fun f => and_congr_right fun hf => k.verdictOf_eq_aborted (hmem f hf)
  · have hle := k.report.verdict.exitCode_le_three
    rw [exitCode]
    omega
  · refine ⟨Summary.counts_ofOutcomes _ _ _ _, ?_⟩
    rw [← (k.complete (hmem f hf) hh).subjects, List.length_map]
    rfl

end Course

end Checker

end Exemplar
