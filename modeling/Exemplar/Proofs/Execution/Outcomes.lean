import Exemplar.Proofs.Execution.Step

/-!
# Consistent outcomes

The parts of an outcome fit its state, whichever way the example took: trouble belongs to errored
examples, a comparison to those whose output was to be compared and that got a verdict, and an
example that was skipped or not reached has nothing but its state.
-/
namespace Exemplar.Execution
open Session Expected

@[simp] lemma State.conclude_passed : conclude .passed = .passed := rfl

@[simp] lemma State.conclude_failed : conclude .failed = .failed := rfl

@[simp] lemma State.conclude_errored : conclude .errored = .errored := rfl

/-- The parts of an outcome fit its state. -/
structure Outcome.Consistent (settings : Settings) (o : Outcome) : Prop where
  not_running : o.state ≠ .running
  trouble_iff : o.trouble.isSome ↔ o.state = .errored
  result_iff : o.result.isSome ↔ o.state = .failed ∨ o.state = .passed ∧
    (settings.optionsOf o.subject).skip = false ∧ (settings.optionsOf o.subject).pass = false
  passed_iff : ∀ r, o.result = some r → (r.passed = true ↔ o.state = .passed)
  bare : o.state = .skipped ∨ o.state = .pending →
    o.output = none ∧ o.result = none ∧ o.trouble = none

namespace Outcome
variable {settings : Settings} {e : Example}

lemma consistent_unreached (settings : Settings) (e : Example) :
    (unreached e).Consistent settings := by
  constructor <;> simp [unreached]

lemma consistent_skipped (settings : Settings) (e : Example) :
    (skipped e).Consistent settings := by
  constructor <;> simp [skipped]

lemma consistent_errored (settings : Settings) (e : Example) (output : Option Text)
    (t : Trouble) : (errored e output t).Consistent settings := by
  constructor <;> simp [errored]

/-- An output can be accepted as it is only if it is not to be compared. -/
lemma consistent_accepted (h : (settings.optionsOf e).checksOutput = false) (output : Text) :
    (accepted e output).Consistent settings where
  not_running := by simp [accepted]
  trouble_iff := by simp [accepted]
  result_iff := by simpa [accepted, Options.checksOutput] using h
  passed_iff := by simp [accepted]
  bare := by simp [accepted]

lemma consistent_compared (h : (settings.optionsOf e).checksOutput = true) (output : Text)
    (p : Pattern) : (compared e output p).Consistent settings := by
  have hcheck : (settings.optionsOf e).skip = false ∧ (settings.optionsOf e).pass = false := by
    simpa [Options.checksOutput] using h
  cases hp : (p.matchOutput output).passed <;> constructor <;> simp [compared, hp, hcheck]

end Outcome

lemma expectedPattern_isSome {clipboard : Captures} {o : Options} {e : Example}
    {pattern : Option Pattern} (h : expectedPattern clipboard o e = .ok pattern) :
    pattern.isSome = o.checksOutput := by
  rw [expectedPattern] at h
  cases hc : o.checksOutput with
  | false =>
    obtain rfl : none = pattern := by simpa [hc] using h
    rfl
  | true =>
    rw [if_pos hc] at h
    split at h
    · obtain rfl := Except.ok.inj h
      rfl
    · cases h

/-- An example that is ready has a pattern if its output is to be compared. -/
lemma prepare_isSome {clipboard : Captures} {o : Options} {e : Example} {p : Prepared}
    (h : prepare clipboard o e = .ok p) : p.pattern.isSome = o.checksOutput :=
  expectedPattern_isSome (prepare_eq_ok h)

variable {σ : Type} {is : Interpreters σ} {settings : Settings} {m : Memory σ} {e : Example}

lemma Answered.consistent {limit : Duration} {clipboard clipboard' : Captures}
    {pattern : Option Pattern} {reply : Reply} {o : Outcome} {b : Option Breakage}
    (h : Answered e limit clipboard pattern reply o b clipboard')
    (hpattern : pattern.isSome = (settings.optionsOf e).checksOutput) :
    o.subject = e ∧ o.state ≠ .pending ∧ o.Consistent settings := by
  cases h with
  | failed | timedOut | crashed =>
    exact ⟨rfl, by simp [Outcome.errored], Outcome.consistent_errored _ _ _ _⟩
  | ok output =>
    cases pattern with
    | none =>
      refine ⟨rfl, ?_, Outcome.consistent_accepted hpattern.symm output⟩
      simp [judge, Outcome.accepted]
    | some p =>
      refine ⟨rfl, ?_, Outcome.consistent_compared hpattern.symm output p⟩
      cases hp : (p.matchOutput output).passed <;> simp [judge, Outcome.compared, hp]

/-- Whatever comes of an example is consistent, and it is not left waiting. -/
theorem Turn.consistent {s : Step σ} {o : Outcome} (h : Turn is settings m e s)
    (ho : s.outcome = some o) : o.subject = e ∧ o.state ≠ .pending ∧ o.Consistent settings := by
  cases h with
  | skipped =>
    obtain rfl := Option.some.inj ho
    exact ⟨rfl, by simp [Outcome.skipped], Outcome.consistent_skipped settings e⟩
  | broken | unready | refused =>
    obtain rfl := Option.some.inj ho
    exact ⟨rfl, by simp [Outcome.errored], Outcome.consistent_errored _ _ _ _⟩
  | sent _ _ hp _ _ ha =>
    obtain rfl := Option.some.inj ho
    exact ha.consistent (prepare_isSome hp)
  | lost => cases ho

end Exemplar.Execution
