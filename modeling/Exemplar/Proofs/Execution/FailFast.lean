import Exemplar.Proofs.Execution.Account

/-!
# Stopping at the first failure

Whether a run is to stop at a failure is looked at between two examples and nowhere else. So a run
of one language that stops is the full run up to its first failure: the outcomes and the exchanges
are the same up to there, the examples behind are not reached, and the session is closed as ever.
-/
namespace Exemplar.Execution
open Session Expected

def Settings.withFailFast (settings : Settings) (on : Bool) : Settings :=
  { settings with failFast := on }

namespace Outcome

/-- The outcome stops a run that is to stop at the first failure. -/
def isFailure (o : Outcome) : Bool := o.state == .failed || o.state == .errored

/-- How many examples are reached if the first failure stops the run. -/
def reached (os : List Outcome) : Nat := os.findIdx isFailure + 1

lemma reached_cons (o : Outcome) (os : List Outcome) :
    reached (o :: os) = if o.isFailure then 1 else reached os + 1 := by
  unfold reached
  rw [List.findIdx_cons]
  cases o.isFailure <;> rfl

end Outcome

variable {σ : Type} {is : Interpreters σ} {settings : Settings} {m m' : Memory σ}
  {examples : List (Nat × Example)} {es : List Entry}

/-- A run that has stopped reaches nothing. -/
lemma ledger_unreached (m : Memory σ) (examples : List (Nat × Example)) :
    Ledger is settings m true examples (examples.map Entry.unreached) m := by
  induction examples with
  | nil => exact .done
  | cons x examples ih => exact ih.unreached

/-- The entries of a run that stops are those of the full run up to its first failure. -/
theorem Ledger.failFast {stopped : Bool}
    (h : Ledger is (settings.withFailFast false) m stopped examples es m')
    (hs : stopped = false) :
    ∃ m'', Ledger is (settings.withFailFast true) m false examples
      (es.take (Outcome.reached (es.map Entry.outcome)) ++
        (examples.drop (Outcome.reached (es.map Entry.outcome))).map Entry.unreached) m'' := by
  induction h with
  | done => exact ⟨_, .done⟩
  | unreached => cases hs
  | @step m m' i e rest es o exchanges next hstep _ ih =>
    -- the step itself does not look at the setting
    have hfast : Execution.step is (settings.withFailFast true) m e = ⟨some o, exchanges, next⟩ := hstep
    rw [List.map_cons, Outcome.reached_cons]
    cases hfailure : o.isFailure with
    | true =>
      have hrest : Ledger is (settings.withFailFast true) next
          (stops (settings.withFailFast true) o) rest (rest.map Entry.unreached) next := by
        rw [show stops (settings.withFailFast true) o = true from hfailure]
        exact ledger_unreached next rest
      exact ⟨next, .step hfast hrest⟩
    | false =>
      obtain ⟨m'', hrest⟩ := ih (not_stops rfl o)
      rw [← show stops (settings.withFailFast true) o = false from hfailure] at hrest
      exact ⟨m'', .step hfast hrest⟩

section
variable {xs : List Example} {language : String} (hl : ∀ e ∈ xs, e.language = language)
include hl

lemma languagesOf_eq_singleton (hne : ∃ e ∈ xs, e.language = language) :
    languagesOf xs = [language] := by
  have hall : ∀ l ∈ languagesOf xs, l = language := by
    intro l hmem
    obtain ⟨e, he, rfl⟩ := mem_languagesOf.1 hmem
    exact hl e he
  have hnodup := languagesOf_nodup xs
  have hmem := mem_languagesOf.2 hne
  match hls : languagesOf xs with
  | [] => simp [hls] at hmem
  | [l] => rw [hall l (by simp [hls])]
  | l :: l' :: ls =>
    rw [hls] at hnodup hall
    have hsame : l = l' := (hall l (by simp)).trans (hall l' (by simp)).symm
    simp [hsame] at hnodup

lemma ofLanguage_numbered : ofLanguage language (numbered xs) = numbered xs := by
  refine List.filter_eq_self.2 fun x hx => ?_
  simpa using hl x.2 (List.mem_of_getElem? (mem_numbered.1 hx))

/-- The only language of a file is run from the beginning. -/
lemma mem_runsOf_of_single (hne : ∃ e ∈ xs, e.language = language) :
    (language, runFrom is settings language .fresh false (ofLanguage language (numbered xs))) ∈
      runsOf is settings xs := by
  unfold runsOf
  rw [languagesOf_eq_singleton hl hne]
  simp [runLanguages]

lemma Account.outcomes_eq (h : Account is settings xs language es) :
    (runExamples is settings xs).outcomes = es.map Entry.outcome := by
  rw [← h.outcomes, outcomes_eq_map, filter_map_outcomeOf (List.Subset.refl _),
    ofLanguage_numbered hl]

end

/-- With one language, and sessions that do not panic, a run that stops at the first failure has
the outcomes of the full run up to and including that failure, and every example behind it, the
skipped ones too, is left waiting with nothing but its state. For the examples up to there the
same is exchanged as in the full run, behind them nothing but the end: a session that was opened
is closed, once. -/
theorem runExamples_failFast (is : Interpreters σ) (settings : Settings) {xs : List Example}
    {language : String} (hl : ∀ e ∈ xs, e.language = language)
    (hcalm : CalmIn is (settings.withFailFast false) language xs) :
    ∃ es n, Account is (settings.withFailFast false) xs language es ∧
      (runExamples is (settings.withFailFast false) xs).outcomes = es.map Entry.outcome ∧
      n = Outcome.reached (runExamples is (settings.withFailFast false) xs).outcomes ∧
      (runExamples is (settings.withFailFast true) xs).outcomes =
        (runExamples is (settings.withFailFast false) xs).outcomes.take n ++
          (xs.drop n).map Outcome.unreached ∧
      (runExamples is (settings.withFailFast true) xs).callsOf language =
        (es.take n).flatMap Entry.exchanges ++ ending ((es.take n).flatMap Entry.exchanges) := by
  obtain ⟨es, hfull⟩ := hcalm.exists_account rfl
  obtain ⟨m, hledger⟩ := hfull.ledger
  obtain ⟨m', hfast⟩ := hledger.failFast rfl
  have hshort := hfast.account (mem_runsOf_of_single hl)
  have houtcomes := hfull.outcomes_eq hl
  rw [ofLanguage_numbered hl] at hshort
  refine ⟨es, _, hfull, houtcomes, rfl, ?_, ?_⟩
  · rw [hshort.outcomes_eq hl, houtcomes, List.map_append, List.map_take, List.map_map]
    conv_rhs => rw [← numbered_map_snd xs, ← List.map_drop, List.map_map]
    rfl
  · rw [hshort.calls, houtcomes, List.flatMap_append, flatMap_unreached, List.append_nil]

/-- The second example fails; the third is skipped in the full run and not reached otherwise. -/
theorem runExamples_failFast_skipped :
    ∃ (is : Interpreters Scripted) (settings : Settings) (xs : List Example),
      (∀ e ∈ xs, e.language = "shell") ∧
      CalmIn is (settings.withFailFast false) "shell" xs ∧
      (runExamples is (settings.withFailFast false) xs).outcomes.map Outcome.state =
        [.passed, .failed, .skipped, .passed] ∧
      (runExamples is (settings.withFailFast true) xs).outcomes =
        (runExamples is (settings.withFailFast false) xs).outcomes.take 2 ++
          (xs.drop 2).map Outcome.unreached ∧
      (runExamples is (settings.withFailFast true) xs).callsOf "shell" =
        [.opened none, .ran ["a".toList] ⟨5⟩ (.response ⟨"a\n".toList, .ok⟩),
          .ran ["b".toList] ⟨5⟩ (.response ⟨"b\n".toList, .ok⟩), .closed] := by
  let is := Scripted.interpreters []
  let settings : Settings := ⟨⟨5⟩, false, Options.none⟩
  let xs : List Example :=
    [⟨"shell", ["a".toList], ["a".toList], 1, [], Options.none⟩,
      ⟨"shell", ["b".toList], ["x".toList], 3, [], Options.none⟩,
      ⟨"shell", ["c".toList], ["c".toList], 5, [], { Options.none with skip := true }⟩,
      ⟨"shell", ["d".toList], ["d".toList], 7, [], Options.none⟩]
  have hcalm : CalmIn is (settings.withFailFast false) "shell" xs := by decide +kernel
  have hl : ∀ e ∈ xs, e.language = "shell" := by decide
  obtain ⟨es, n, -, -, hn, houtcomes, -⟩ := runExamples_failFast is settings hl hcalm
  have htwo : n = 2 := by
    rw [hn]
    decide +kernel
  rw [htwo] at houtcomes
  exact ⟨is, settings, xs, hl, hcalm, by decide +kernel, houtcomes, by decide +kernel⟩

end Exemplar.Execution
