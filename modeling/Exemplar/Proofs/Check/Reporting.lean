import Exemplar.Check
import Exemplar.Proofs.Check.Schedule
import Exemplar.Proofs.Report.Severity

/-!
# What several workers report

However the workers alternate, the files that are told of are the first ones, in order and each
once, with the texts of their own results; the verdict is the worst of theirs. If no file ends the
run they are all files, and the report is the one that a single worker gives.
-/
namespace Exemplar
open Report

namespace RunReport

/-- What is printed of a file. -/
def textOf : Except Harvest.Failure CheckedFile → Text
  | .ok f => f.text
  | .error _ => []

/-- What a file adds to the verdict. -/
def verdictOf : Except Harvest.Failure CheckedFile → Verdict
  | .ok f => f.summary.verdict
  | .error _ => .fatal

lemma verdictOf_eq_fatal {x : Except Harvest.Failure CheckedFile} :
    verdictOf x = .fatal ↔ ∃ e, x = .error e := by
  cases x with
  | ok f => simpa [verdictOf] using f.summary.verdict_ne_fatal
  | error e => simp [verdictOf]

/-- A file that is all right does not end the run. -/
lemma halts_of_ok {failFast : Bool} {x : Except Harvest.Failure CheckedFile}
    (h : verdictOf x = .ok) : halts failFast x = false := by
  cases x with
  | ok f =>
    have hf : f.summary.verdict = .ok := h
    simp [halts, hf]
  | error e => cases h

lemma verdict_add (r : RunReport) (path : Path) (x : Except Harvest.Failure CheckedFile) :
    (r.add path x).verdict = r.verdict.worst (verdictOf x) := by
  cases x with
  | ok f => rfl
  | error e => cases r.verdict <;> simp [add, verdictOf, Verdict.worst, Verdict.exitCode]

lemma output_add (r : RunReport) (path : Path) (x : Except Harvest.Failure CheckedFile) :
    (r.add path x).output = r.output ++ textOf x := by
  cases x <;> simp [add, textOf]

/-- A run over files that has told of nothing yet. -/
def begun (files : List Path) : RunReport := ⟨[], [foundRecord files], .ok⟩

variable (check : Path → Except Harvest.Failure CheckedFile)

/-- Tell of files one after the other. -/
def addAll (r : RunReport) (files : List Path) : RunReport :=
  files.foldl (fun r p => r.add p (check p)) r

lemma addAll_output (r : RunReport) (files : List Path) :
    (r.addAll check files).output = r.output ++ files.flatMap fun p => textOf (check p) := by
  induction files generalizing r with
  | nil => simp [addAll]
  | cons p ps ih =>
    change ((r.add p (check p)).addAll check ps).output = _
    rw [ih, output_add, List.flatMap_cons, List.append_assoc]

lemma addAll_verdict (r : RunReport) (files : List Path) :
    (r.addAll check files).verdict =
      (files.map fun p => verdictOf (check p)).foldl Verdict.worst r.verdict := by
  induction files generalizing r with
  | nil => rfl
  | cons p ps ih =>
    change ((r.add p (check p)).addAll check ps).verdict = _
    rw [ih, verdict_add, List.map_cons, List.foldl_cons]

lemma isWorst_addAll_begun (files told : List Path) :
    Verdict.IsWorst (told.map fun p => verdictOf (check p))
      ((begun files).addAll check told).verdict := by
  have hnone : Verdict.IsWorst [] (begun files).verdict := ⟨by simp, .inl rfl⟩
  rw [addAll_verdict]
  exact Verdict.isWorst_foldl hnone

lemma zip_map_take (files : List Path) (k : Nat) :
    files.zip ((files.take k).map check) = (files.take k).map fun f => (f, check f) := by
  induction files generalizing k with
  | nil => simp
  | cons f fs ih =>
    cases k with
    | zero => rfl
    | succ k => simp only [List.take_succ_cons, List.map_cons, List.zip_cons_cons, ih]

/-- The results of the first files are told of as theirs. -/
lemma ofReleased_take {files : List Path} {k : Nat}
    {p : Pool (Except Harvest.Failure CheckedFile)}
    (hp : p.released = (files.take k).map check) (r : RunReport) :
    r.ofReleased files p = r.addAll check (files.take k) := by
  rw [ofReleased, hp, zip_map_take, List.foldl_map, addAll]

/-- A single worker tells of all files if none of them ends the run. -/
lemma checkFrom_eq_addAll {failFast : Bool} {files : List Path}
    (h : ∀ f ∈ files, halts failFast (check f) = false) (r : RunReport) :
    checkFrom check failFast r files = r.addAll check files := by
  induction files generalizing r with
  | nil => rfl
  | cons p ps ih =>
    rw [checkFrom, h p List.mem_cons_self]
    exact ih (fun f hf => h f (List.mem_cons_of_mem p hf)) _

end RunReport

/-- A pool with nothing left to do, after any alternation of a number of jobs over files. -/
structure Ends (check : Path → Except Harvest.Failure CheckedFile) (failFast : Bool) (jobs : Nat)
    (files : List Path) (p : Pool (Except Harvest.Failure CheckedFile)) : Prop where
  reaches : Pool.Reaches (tasks check failFast files) (Pool.start (min jobs files.length)) p
  finished : Pool.Finished (tasks check failFast files) p

lemma ends_finish (check : Path → Except Harvest.Failure CheckedFile) (failFast : Bool)
    (jobs : Nat) (files : List Path) :
    Ends check failFast jobs files
      (Pool.finish (tasks check failFast files) (min jobs files.length)) :=
  ⟨Pool.finish_reaches _ _, Pool.finished_finish _ _⟩

variable {check : Path → Except Harvest.Failure CheckedFile} {failFast : Bool} {jobs : Nat}
  {files : List Path} {p : Pool (Except Harvest.Failure CheckedFile)}

/-- Results of tasks are results of files. -/
lemma map_result_range {k : Nat} (hk : k ≤ files.length) :
    (List.range k).map (tasks check failFast files).result = (files.take k).map check := by
  refine List.ext_getElem (by simp [hk]) fun i hi _ => ?_
  have hlt : i < files.length := by
    rw [List.length_map, List.length_range] at hi
    omega
  simp [tasks, List.getD_eq_getElem?_getD, hlt]

/-- The pool has released the results of the first files, and a file that is not among them
stands behind one that ends the run. -/
theorem Ends.exists_take (h : Ends check failFast jobs files p) (hj : 1 ≤ jobs) :
    ∃ k ≤ files.length, p.released = (files.take k).map check ∧
      (k < files.length → ∃ f ∈ files.take k, halts failFast (check f) = true) := by
  have hn : min 1 files.length ≤ min jobs files.length := by omega
  obtain ⟨k, hk, hreleased, hstop⟩ := Pool.exists_released hn h.reaches h.finished
  rw [map_result_range hk] at hreleased
  refine ⟨k, hk, hreleased, fun hlt => ?_⟩
  obtain ⟨j, hj, hhalt⟩ := hstop hlt
  have hjlt : j < files.length := Nat.lt_of_lt_of_le hj hk
  refine ⟨files[j], List.mem_take_iff_getElem.2 ⟨j, by omega, rfl⟩, ?_⟩
  simpa [tasks, List.getD_eq_getElem?_getD, hjlt] using hhalt

/-- If none of the first files ends the run, they are all files. -/
lemma length_le_of_go {k : Nat}
    (hstop : k < files.length → ∃ f ∈ files.take k, halts failFast (check f) = true)
    (hgo : ∀ f ∈ files.take k, halts failFast (check f) = false) : files.length ≤ k := by
  refine Nat.not_lt.1 fun hlt => ?_
  obtain ⟨f, hf, hhalt⟩ := hstop hlt
  simp [hgo f hf] at hhalt

/-- If no file ends the run, all files are told of, as a single worker does. -/
lemma Ends.ofReleased_eq (h : Ends check failFast jobs files p) (hj : 1 ≤ jobs)
    (hgo : ∀ f ∈ files, halts failFast (check f) = false) :
    p.released = files.map check ∧
      RunReport.ofReleased (.begun files) files p =
        checkFrom check failFast (.begun files) files := by
  obtain ⟨k, -, hreleased, hstop⟩ := h.exists_take hj
  have hall : files.take k = files := List.take_of_length_le
    (length_le_of_go hstop fun f hf => hgo f (List.mem_of_mem_take hf))
  rw [RunReport.ofReleased_take check hreleased, RunReport.checkFrom_eq_addAll check hgo,
    hreleased, hall]
  exact ⟨rfl, rfl⟩

/-- What a checker was made for: a run over these files. -/
structure Checker.Discovers {σ : Type} (c : Checker σ) (files : List Path) : Prop where
  table : c.config.table = .ok c.table
  discovered : Files.discover c.tree c.config.files c.config.skip = .ok files
  nonempty : files ≠ []

/-- A run tells of what its workers have released. -/
theorem Checker.Discovers.run_eq {σ : Type} {c : Checker σ} (h : c.Discovers files) :
    run c.config c.tree c.interpreters c.elapsed =
      .ok (.ofReleased (.begun files) files
        (Pool.finish (tasks c.checkFile c.config.failFast files)
          (min c.config.jobs files.length))) := by
  obtain ⟨f, fs, rfl⟩ := List.exists_cons_of_ne_nil h.nonempty
  simp only [run, h.table, h.discovered]
  rfl

/-- Several workers cannot be seen from outside. A run is one alternation of their steps; any
other can be brought to an end as well, and whatever end that is, the first files are told of, in
order and each once: the output is that of their texts, the verdict is the worst of theirs, fatal
if one of them could not be checked. A file is left out only behind one that ends the run; if none
does, the report is that of a single worker. -/
theorem report_of_schedule (check : Path → Except Harvest.Failure CheckedFile) (failFast : Bool)
    (files : List Path) {jobs : Nat} (hj : 1 ≤ jobs) :
    (∀ {σ : Type} (c : Checker σ), c.Discovers files → c.checkFile = check →
        c.config.failFast = failFast → c.config.jobs = jobs →
        ∃ p, Ends check failFast jobs files p ∧
          run c.config c.tree c.interpreters c.elapsed =
            .ok (.ofReleased (.begun files) files p)) ∧
      (∀ p, Pool.Reaches (tasks check failFast files) (Pool.start (min jobs files.length)) p →
        ∃ q, Pool.Reaches (tasks check failFast files) p q ∧ Ends check failFast jobs files q) ∧
      ∀ p, Ends check failFast jobs files p →
        let r := RunReport.ofReleased (.begun files) files p
        ∃ k ≤ files.length,
          p.released = (files.take k).map check ∧
          r.output = (files.take k).flatMap (fun f => RunReport.textOf (check f)) ∧
          Verdict.IsWorst ((files.take k).map fun f => RunReport.verdictOf (check f)) r.verdict ∧
          (r.verdict = .fatal ↔ ∃ f ∈ files.take k, ∃ e, check f = .error e) ∧
          (k < files.length → ∃ f ∈ files.take k, halts failFast (check f) = true) ∧
          ((∀ f ∈ files, halts failFast (check f) = false) →
            k = files.length ∧ r = checkFrom check failFast (.begun files) files ∧
            ∀ q, Ends check failFast 1 files q →
              r = RunReport.ofReleased (.begun files) files q) := by
  refine ⟨fun c hc => ?_, fun p hp => ?_, fun p hp => ?_⟩
  · rintro rfl rfl rfl
    exact ⟨_, ends_finish _ _ _ _, hc.run_eq⟩
  · obtain ⟨q, hq, hf⟩ := Pool.exists_finished (tasks check failFast files) p
    exact ⟨q, hq, hp.trans hq, hf⟩
  obtain ⟨k, hk, hreleased, hstop⟩ := hp.exists_take hj
  have hr : RunReport.ofReleased (.begun files) files p =
      (RunReport.begun files).addAll check (files.take k) :=
    RunReport.ofReleased_take check hreleased _
  have hworst := RunReport.isWorst_addAll_begun check files (files.take k)
  refine ⟨k, hk, hreleased, ?_, hr ▸ hworst, ?_, hstop, fun hgo => ⟨?_, ?_, fun q hq => ?_⟩⟩
  · rw [hr, RunReport.addAll_output]
    rfl
  · rw [hr, hworst.eq_fatal_iff, List.mem_map]
    simp only [RunReport.verdictOf_eq_fatal]
  · exact Nat.le_antisymm hk
      (length_le_of_go hstop fun f hf => hgo f (List.mem_of_mem_take hf))
  · exact (hp.ofReleased_eq hj hgo).2
  · rw [(hp.ofReleased_eq hj hgo).2, (hq.ofReleased_eq (Nat.le_refl 1) hgo).2]

/-- Two workers, three files: the second file cannot be checked, and it is heard of before the
first, which its worker finishes nevertheless. The third file is left out. -/
theorem report_of_schedule_overtaken :
    let check : Path → Except Harvest.Failure CheckedFile := fun f =>
      if f = ['b'] then .error (.noRule f) else .ok ⟨.found f 1 0 ⟨0⟩, f, []⟩
    let files : List Path := [['a'], ['b'], ['c']]
    ∃ p, Ends check false 2 files p ∧ p.released = ([['a'], ['b']] : List Path).map check ∧
      (RunReport.ofReleased (.begun files) files p).output = ['a'] ∧
      (RunReport.ofReleased (.begun files) files p).verdict = .fatal := by
  intro check files
  let second := [Action.worker 0, .worker 1, .worker 0, .worker 1, .worker 1, .worker 1, .worker 1]
  let first := [Action.receiver, .worker 1, .worker 0, .worker 0, .worker 0, .worker 0, .receiver]
  let p : Pool (Except Harvest.Failure CheckedFile) :=
    ⟨[.gone, .gone], 2, true, [], [], [check ['a'], check ['b']]⟩
  have hp : Pool.perform (tasks check false files) (second ++ first) (.start 2) = some p := rfl
  have hends : Ends check false 2 files p :=
    ⟨Pool.reaches_of_perform hp, Pool.finished_iff.2 ⟨by simp [p], rfl⟩⟩
  obtain ⟨k, hk, hreleased, houtput, -, hfatal, -⟩ :=
    (report_of_schedule check false files (by decide : 1 ≤ 2)).2.2 p hends
  have hlength := congrArg List.length hreleased
  rw [List.length_map, List.length_take, Nat.min_eq_left hk] at hlength
  obtain rfl : 2 = k := hlength
  exact ⟨p, hends, hreleased, houtput, hfatal.2 ⟨['b'], by decide, _, rfl⟩⟩

end Exemplar
