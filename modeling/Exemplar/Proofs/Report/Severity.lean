import Exemplar.Report.Summary
import Mathlib.Data.List.Basic

/-!
# Severity

The counts of a summary leave no example out, and its verdict is read off the states of the
examples. Taken together, verdicts give the worst of them.
-/
namespace Exemplar.Report
open Execution

namespace Verdict

/-- The worst of some verdicts; nothing is wrong if there are none. -/
structure IsWorst (vs : List Verdict) (v : Verdict) : Prop where
  le : ∀ w ∈ vs, w.exitCode ≤ v.exitCode
  attained : v = .ok ∨ v ∈ vs

lemma exitCode_inj {v w : Verdict} : v.exitCode = w.exitCode ↔ v = w := by
  cases v <;> cases w <;> simp [exitCode]

lemma exitCode_le_three (v : Verdict) : v.exitCode ≤ 3 := by
  cases v <;> simp [exitCode]

lemma worst_cases (v w : Verdict) :
    (v.worst w = v ∧ w.exitCode ≤ v.exitCode) ∨ (v.worst w = w ∧ v.exitCode ≤ w.exitCode) := by
  rw [worst]
  split
  · exact .inr ⟨rfl, by omega⟩
  · exact .inl ⟨rfl, by omega⟩

/-- Verdicts that are taken together one after the other give the worst one. -/
lemma isWorst_foldl {vs ws : List Verdict} {v : Verdict} (h : IsWorst vs v) :
    IsWorst (vs ++ ws) (ws.foldl worst v) := by
  induction ws generalizing vs v with
  | nil => simpa using h
  | cons w ws ih =>
    have hnext : IsWorst (vs ++ [w]) (v.worst w) := by
      rcases worst_cases v w with ⟨he, hle⟩ | ⟨he, hle⟩
      · rw [he]
        refine ⟨fun x hx => ?_, h.attained.imp_right (List.mem_append_left _)⟩
        rcases List.mem_append.1 hx with hx | hx
        · exact h.le x hx
        · obtain rfl := List.mem_singleton.1 hx
          exact hle
      · rw [he]
        refine ⟨fun x hx => ?_, .inr (by simp)⟩
        rcases List.mem_append.1 hx with hx | hx
        · exact Nat.le_trans (h.le x hx) hle
        · obtain rfl := List.mem_singleton.1 hx
          exact Nat.le_refl _
    simpa using ih hnext

lemma IsWorst.eq_fatal_iff {vs : List Verdict} {v : Verdict} (h : IsWorst vs v) :
    v = .fatal ↔ .fatal ∈ vs := by
  constructor
  · rintro rfl
    exact h.attained.resolve_left (by simp)
  · intro hmem
    have hle := h.le _ hmem
    cases v <;> simp [exitCode] at hle ⊢

lemma IsWorst.eq_aborted_iff {vs : List Verdict} {v : Verdict} (h : IsWorst vs v) :
    v = .aborted ↔ v ≠ .fatal ∧ .aborted ∈ vs := by
  constructor
  · rintro rfl
    exact ⟨by simp, h.attained.resolve_left (by simp)⟩
  · rintro ⟨hne, hmem⟩
    have hle := h.le _ hmem
    cases v <;> simp [exitCode] at hle hne ⊢

/-- The worst verdict is fine if all are. -/
lemma IsWorst.eq_ok_iff {vs : List Verdict} {v : Verdict} (h : IsWorst vs v) :
    v = .ok ↔ ∀ w ∈ vs, w = .ok := by
  constructor
  · rintro rfl w hw
    have hle := h.le w hw
    cases w <;> simp [exitCode] at hle ⊢
  · intro hall
    exact h.attained.elim id (hall v)

end Verdict

namespace Summary
variable {path : Path} {outcomes : List Outcome} {problems : Nat} {elapsed : Duration}

lemma verdict_ne_fatal (s : Summary) : s.verdict ≠ .fatal := by
  rw [verdict]
  split_ifs <;> simp

lemma count_pos_iff {s : State} : 0 < count outcomes s ↔ ∃ o ∈ outcomes, o.state = s := by
  simp [count, List.countP_pos_iff]

/-- Every example is counted once. -/
theorem counts_ofOutcomes (path : Path) (outcomes : List Outcome) (problems : Nat)
    (elapsed : Duration) :
    let s := ofOutcomes path outcomes problems elapsed
    s.passed + s.failed + s.errored + s.skipped + s.notRun = s.total := by
  induction outcomes with
  | nil => rfl
  | cons o outcomes ih =>
    simp only [ofOutcomes, count, List.countP_cons, List.length_cons] at ih ⊢
    cases o.state <;> simp <;> omega

lemma count_eq_zero_iff {s : State} : count outcomes s = 0 ↔ ∀ o ∈ outcomes, o.state ≠ s := by
  simp [count, List.countP_eq_zero]

lemma verdict_eq_aborted_iff :
    (ofOutcomes path outcomes problems elapsed).verdict = .aborted ↔
      ∃ o ∈ outcomes, o.state = .errored ∨ o.state = .pending ∨ o.state = .running := by
  have hverdict (s : Summary) : s.verdict = .aborted ↔ 0 < s.errored ∨ 0 < s.notRun := by
    rw [verdict]
    split_ifs with h₁ h₂ <;> simp only [h₁]
  rw [hverdict, ofOutcomes, Nat.add_pos_iff_pos_or_pos]
  simp only [count_pos_iff, and_or_left, exists_or]

/-- Nothing is wrong if all examples passed or were skipped. -/
lemma verdict_eq_ok_iff :
    (ofOutcomes path outcomes problems elapsed).verdict = .ok ↔
      ∀ o ∈ outcomes, o.state = .passed ∨ o.state = .skipped := by
  have hverdict (s : Summary) :
      s.verdict = .ok ↔ s.errored = 0 ∧ s.notRun = 0 ∧ s.failed = 0 := by
    rw [verdict]
    split_ifs <;> simp only [true_iff, false_iff] <;> omega
  rw [hverdict, ofOutcomes, Nat.add_eq_zero_iff]
  simp only [count_eq_zero_iff]
  constructor
  · rintro ⟨herrored, ⟨hpending, hrunning⟩, hfailed⟩ o ho
    cases hs : o.state with
    | pending => exact absurd hs (hpending o ho)
    | running => exact absurd hs (hrunning o ho)
    | passed => exact .inl rfl
    | failed => exact absurd hs (hfailed o ho)
    | errored => exact absurd hs (herrored o ho)
    | skipped => exact .inr rfl
  · intro h
    have hne {s : State} (hp : s ≠ .passed) (hs : s ≠ .skipped) : ∀ o ∈ outcomes, o.state ≠ s := by
      rintro o ho rfl
      exact (h o ho).elim hp hs
    exact ⟨hne (by simp) (by simp), ⟨hne (by simp) (by simp), hne (by simp) (by simp)⟩,
      hne (by simp) (by simp)⟩

end Summary

end Exemplar.Report
