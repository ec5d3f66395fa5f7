import Exemplar.CommandLine.Invocation
import Exemplar.Proofs.Check.Course
import Exemplar.Proofs.CommandLine.Configuration
import Exemplar.Session.Scripted
import Mathlib

/-!
# The exit status of an invocation

An invocation that asks for a run needs its configuration, interpreters, prompts and at least one
file. If anything of this is missing it ends with the status of a fatal error; otherwise it is one
of the courses of its run, and what the exit code says of all of them it says of this one.
-/
namespace Exemplar.CommandLine

namespace Config
variable {c : Config} {found : Found} {env : Environment}

lemma one_le_of_parseJobs {v : Text} {n : Nat} (h : parseJobs v = .ok n) : 1 ≤ n := by
  rw [parseJobs] at h
  split at h
  · cases h
  · cases h
  · rename_i hne _
    obtain rfl := Except.ok.inj h
    exact Nat.pos_of_ne_zero fun h0 => hne (by rw [h0])

/-- There is at least one job. -/
lemma one_le_jobs (h : ofFound found env = .ok c) : 1 ≤ c.jobs := by
  have hjobs := (readFrom_of_ofFound h).jobs
  rw [jobsOf] at hjobs
  split at hjobs
  · exact one_le_of_parseJobs hjobs
  · exact Nat.le_of_eq (Except.ok.inj hjobs)

variable {σ : Type} {tree : Files.Tree} {registry : Session.Registry} {table : Prompt.Table}
  {files : List Path}

/-- What has to be there before the first file is checked. -/
structure Ready (c : Config) (tree : Files.Tree) (registry : Session.Registry)
    (table : Prompt.Table) (files : List Path) : Prop where
  registry : c.registry = .ok registry
  table : c.table = .ok table
  discovered : Files.discover tree c.files c.skip = .ok files
  nonempty : files ≠ []

/-- A run that cannot begin is a fatal one. -/
lemma exitCode_of_not_ready (h : ∀ registry table files, ¬ c.Ready tree registry table files)
    (interpreters : Session.Registry → Session.Interpreters σ) (elapsed : Path → Duration) :
    (c.complete tree interpreters elapsed).exitCode = 3 := by
  rw [complete]
  cases hr : c.registry with
  | error e => rfl
  | ok registry =>
    simp only [run]
    cases ht : c.table with
    | error e => rfl
    | ok table =>
      cases hd : Files.discover tree c.files c.skip with
      | error e => rfl
      | ok files =>
        cases files with
        | nil => rfl
        | cons f fs => exact absurd ⟨hr, ht, hd, by simp⟩ (h registry table (f :: fs))

/-- A run that can begin is one of its courses. -/
lemma complete_of_ready (h : c.Ready tree registry table files) (hdry : c.dry = false)
    (interpreters : Session.Registry → Session.Interpreters σ) (elapsed : Path → Duration) :
    let checker : Checker σ := ⟨c, table, tree, interpreters registry, elapsed⟩
    (c.complete tree interpreters elapsed).output =
        (Checker.Course.own checker files).report.output ∧
      (c.complete tree interpreters elapsed).exitCode =
        (Checker.Course.own checker files).exitCode := by
  intro checker
  have hdiscovers : checker.Discovers files := ⟨h.table, h.discovered, h.nonempty⟩
  have hrun : run c tree (interpreters registry) elapsed =
      .ok (Checker.Course.own checker files).report := by
    rw [hdiscovers.run_eq, Checker.checkFile_eq hdry]
    rfl
  simp [complete, h.registry, hrun, Checker.Course.exitCode]

end Config

/-- The exit code of an invocation certifies its run, however the languages and workers of the run
alternate: it is zero only if every file was harvested and each of its examples passed or was
skipped, three if a file that is told of or what the run begins with was fatal, else two if an
example of a file that is told of was errored or not reached, and else one. -/
theorem invoke_exitCode {σ : Type} {args : List Text} {found : Found}
    (hread : read forms args = .ok found) (env : Config.Environment) (tree : Files.Tree)
    (interpreters : Session.Registry → Session.Interpreters σ) (elapsed : Path → Duration) :
    ∃ completion, invoke args env tree interpreters elapsed = .ok completion ∧
      ((∀ c registry table files, Config.ofFound found env = .ok c →
        ¬ c.Ready tree registry table files) → completion.exitCode = 3) ∧
      ∀ c registry table files, Config.ofFound found env = .ok c →
        c.Ready tree registry table files → c.dry = false →
        let checker : Checker σ := ⟨c, table, tree, interpreters registry, elapsed⟩
        completion.output = (Checker.Course.own checker files).report.output ∧
          completion.exitCode = (Checker.Course.own checker files).exitCode ∧
          ∀ k : checker.Course files, k.Certified := by
  cases hc : Config.ofFound found env with
  | error e =>
    refine ⟨.ofError e.message, by simp [invoke, hread, hc], fun _ => rfl, ?_⟩
    intro c registry table files h
    cases h
  | ok c =>
    refine ⟨c.complete tree interpreters elapsed, by simp [invoke, hread, hc], fun h => ?_, ?_⟩
    · exact Config.exitCode_of_not_ready (fun registry table files => h c registry table files rfl)
        interpreters elapsed
    · rintro _ registry table files ⟨⟩ hready hdry checker
      obtain ⟨houtput, hcode⟩ := Config.complete_of_ready hready hdry interpreters elapsed
      exact ⟨houtput, hcode, fun k => k.certified (Config.one_le_jobs hc)⟩

namespace Unexpected

def file : Path := "a.txt".toList

/-- One file with one example, which does not expect its echo. -/
def tree : Files.Tree := ⟨[([file], .file "$ x\ny\n".toUTF8.toList)], []⟩

def found : Found := [(.jobs, ["2".toList]), (.files, [file])]

def config : Config :=
  ⟨[file], [], [], standardTimeout, 2, false, false, .standard, .none, [], false, 0, false⟩

def checker : Checker Session.Scripted :=
  ⟨config, .standard, tree, Session.Scripted.interpreters [], fun _ => ⟨0⟩⟩

end Unexpected

open Unexpected in
/-- An example with another output than the expected one, and nothing worse. -/
theorem invoke_exitCode_unexpected :
    ∃ completion, invoke ["-j2".toList, file] [] tree
      (fun _ => Session.Scripted.interpreters []) (fun _ => ⟨0⟩) = .ok completion ∧
      completion.exitCode = 1 := by
  have hread : read forms ["-j2".toList, file] = .ok found := by cbv
  have hready : config.Ready tree .standard .standard [file] := ⟨rfl, rfl, by cbv, by simp⟩
  obtain ⟨completion, hinvoke, -, hcourses⟩ := invoke_exitCode hread [] tree
    (fun _ => Session.Scripted.interpreters []) (fun _ => ⟨0⟩)
  obtain ⟨-, hcode, hcertified⟩ := hcourses config .standard .standard _ rfl hready rfl
  have hk := hcertified (.own checker [file])
  have hharvest : (checker.harvest file).toOption.isSome = true := by cbv
  have hstates : (checker.ownRun file).outcomes.map Execution.Outcome.state = [.failed] := by cbv
  obtain ⟨o, houtcomes, hstate⟩ := List.map_eq_singleton_iff.1 hstates
  have hreported : ∀ f ∈ (Checker.Course.own checker [file]).reported, f = file :=
    fun f hf => List.mem_singleton.1 (List.mem_of_mem_take hf)
  refine ⟨completion, hinvoke, hcode.trans (hk.one_iff.2 ⟨?_, ?_, ?_⟩)⟩
  · intro h0
    obtain ⟨_, -, hall⟩ := hk.zero_iff.1 h0 file (List.mem_singleton_self file)
    have hfine := hall o (by rw [Checker.Course.own, houtcomes]; simp)
    simp [hstate] at hfine
  · intro h2
    obtain ⟨-, f, hf, _, -, o', ho', hbad⟩ := hk.two_iff.1 h2
    obtain rfl := hreported f hf
    rw [Checker.Course.own, houtcomes] at ho'
    obtain rfl := List.mem_singleton.1 ho'
    simp [hstate] at hbad
  · intro h3
    obtain ⟨f, hf, e, he⟩ := hk.three_iff.1 h3
    have hfile : checker.harvest file = .error e := hreported f hf ▸ he
    rw [hfile] at hharvest
    cases hharvest

end Exemplar.CommandLine
