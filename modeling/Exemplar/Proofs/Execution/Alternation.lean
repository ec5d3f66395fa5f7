import Exemplar.Proofs.Execution.Ledger
import Exemplar.Proofs.Execution.Outcomes
import Exemplar.Session.Scripted

/-!
# Outcomes of languages beside each other

However the steps of the languages alternate, every example gets one outcome in the end, a
consistent one, and an example is left waiting only if the run was stopped by one that is told as
failed or errored. Running one language after the other is one of these courses, with the same
outcomes and the same exchanges.
-/
namespace Exemplar.Execution
open Session Expected

variable {σ : Type}

/-- What can come of the examples of a file when its languages run beside each other. -/
def Possible (is : Interpreters σ) (settings : Settings) (examples : List Example)
    (outcomes : List Outcome) : Prop :=
  ∃ c : Crew σ, c.EndOf is settings examples ∧ outcomes = c.outcomes examples

/-- One consistent outcome for each example, and none is left waiting without a reason. -/
structure Complete (settings : Settings) (examples : List Example) (outcomes : List Outcome) :
    Prop where
  subjects : outcomes.map Outcome.subject = examples
  consistent : ∀ o ∈ outcomes, o.Consistent settings
  pending : (∃ o ∈ outcomes, o.state = .pending) →
    settings.failFast = true ∧ ∃ o ∈ outcomes, o.state = .failed ∨ o.state = .errored

variable {is : Interpreters σ} {settings : Settings} {examples : List Example}

namespace Stage
variable {xs : List (Nat × Example)} {a b : Stage σ} {stopped stopped' : Bool}

/-- The examples are done or still to do, and what is done is consistent. -/
structure Tells (settings : Settings) (xs : List (Nat × Example)) (stopped : Bool)
    (a : Stage σ) : Prop where
  covers : a.isLost = false → a.results.map (fun o => (o.1, o.2.subject)) ++ a.todo = xs
  consistent : ∀ o ∈ a.results, o.2.Consistent settings
  pending : ∀ o ∈ a.results, o.2.state = .pending → stopped = true

/-- Something went wrong. -/
def Fails (a : Stage σ) : Prop :=
  a.isLost = true ∨ ∃ o ∈ a.results, o.2.state = .failed ∨ o.2.state = .errored

lemma isLost_eq_false {o : Nat × Outcome} (h : o ∈ a.results) : a.isLost = false := by
  cases a with
  | lost => cases h
  | looking | executing | ended => rfl

lemma results_looking_snoc (todo : List (Nat × Example)) (m : Memory σ) (done : List Entry)
    (x : Entry) : (looking todo m (done ++ [x])).results = done.map Entry.result ++ [x.result] := by
  simp [results]

lemma Goes.stopped_mono (h : Goes is settings stopped a stopped' b) (hs : stopped = true) :
    stopped' = true := by
  cases h with
  | pass => rfl
  | enter => exact hs
  | execute => rw [hs, Bool.true_or]
  | finish | perish | panic => exact hs

lemma Tells.mono (h : a.Tells settings xs stopped) (hs : stopped = true → stopped' = true) :
    a.Tells settings xs stopped' :=
  ⟨h.covers, h.consistent, fun o ho hp => hs (h.pending o ho hp)⟩

/-- Doing the next example. -/
lemma Tells.snoc {x : Entry} {todo : List (Nat × Example)} {m m' : Memory σ}
    {done : List Entry} (h : (looking (x.numbered :: todo) m done).Tells settings xs stopped)
    (hs : stopped = true → stopped' = true) (hsubject : x.outcome.subject = x.subject)
    (hc : x.outcome.Consistent settings) (hp : x.outcome.state = .pending → stopped' = true) :
    (looking todo m' (done ++ [x])).Tells settings xs stopped' where
  covers := fun _ => by
    rw [← h.covers rfl, results_looking_snoc]
    simp [Stage.results, Entry.result, Entry.numbered, hsubject]
  consistent := fun y hy => by
    rw [results_looking_snoc] at hy
    rcases List.mem_append.1 hy with hy | hy
    · exact h.consistent y hy
    · obtain rfl := List.mem_singleton.1 hy
      exact hc
  pending := fun y hy hstate => by
    rw [results_looking_snoc] at hy
    rcases List.mem_append.1 hy with hy | hy
    · exact hs (h.pending y hy hstate)
    · obtain rfl := List.mem_singleton.1 hy
      exact hp hstate

lemma Goes.tells (h : Goes is settings stopped a stopped' b)
    (ha : a.Tells settings xs stopped) : b.Tells settings xs stopped' := by
  cases h with
  | @pass x todo m done =>
    have hnext : (looking ((Entry.unreached x).numbered :: todo) m done).Tells settings xs true := ha
    exact hnext.snoc id rfl (Outcome.consistent_unreached _ _) fun _ => rfl
  | enter => exact ⟨fun _ => ha.covers rfl, ha.consistent, ha.pending⟩
  | @execute _ x todo m done o ho =>
    obtain ⟨hsubject, hp, hc⟩ := (step_turn is settings m x.2).consistent ho
    let entry : Entry := ⟨x.1, x.2, o, (step is settings m x.2).exchanges⟩
    have hnext : (looking (entry.numbered :: todo) m done).Tells settings xs stopped :=
      ⟨fun _ => ha.covers rfl, ha.consistent, ha.pending⟩
    exact hnext.snoc (fun hs => by simp [hs]) hsubject hc fun hstate => absurd hstate hp
  | finish => exact ⟨fun _ => ha.covers rfl, ha.consistent, ha.pending⟩
  | perish | panic => exact ⟨nofun, by simp [results], by simp [results]⟩

/-- A failure is not undone. -/
lemma Goes.fails (h : Goes is settings stopped a stopped' b) (ha : a.Fails) : b.Fails := by
  have hgrow : ∀ {c d : Stage σ}, c.Fails → c.isLost = false → c.done ⊆ d.done → d.Fails := by
    rintro c d (hl | ⟨o, ho, hstate⟩) hc hsub
    · cases hl.symm.trans hc
    · exact .inr ⟨o, List.map_subset _ hsub ho, hstate⟩
  cases h with
  | pass | execute => exact hgrow ha rfl (List.subset_append_left _ _)
  | enter | finish => exact hgrow ha rfl (List.Subset.refl _)
  | perish | panic => exact .inl rfl

/-- Only a failure sets the mark, and only if the run is to stop at the first one. -/
lemma Goes.of_stopped (h : Goes is settings stopped a stopped' b) (hs : stopped' = true) :
    stopped = true ∨ settings.failFast = true ∧ b.Fails := by
  cases h with
  | pass => exact .inl rfl
  | enter => cases hs
  | @execute _ x _ _ _ o =>
    refine (Bool.or_eq_true_iff.1 hs).imp_right fun hstops => ?_
    obtain ⟨hf, hstate⟩ := Bool.and_eq_true_iff.1 hstops
    refine ⟨hf, .inr ⟨(x.1, o), by simp [results, Entry.result], ?_⟩⟩
    simpa using hstate
  | finish | perish | panic => exact .inl hs

end Stage

namespace Crew
variable {c c' : Crew σ}

/-- What holds of the languages of a file all the time. -/
structure Sound (settings : Settings) (examples : List Example) (c : Crew σ) : Prop where
  languages : c.stages.map Prod.fst = languagesOf examples
  tells : ∀ t ∈ c.stages, t.2.Tells settings (ofLanguage t.1 (numbered examples)) c.stopped
  stopped : c.stopped = true → settings.failFast = true ∧ ∃ t ∈ c.stages, t.2.Fails

lemma sound_start (settings : Settings) (examples : List Example) :
    (start examples : Crew σ).Sound settings examples where
  languages := by simp [start, Function.comp_def]
  tells := fun t ht => by
    obtain ⟨l, -, rfl⟩ := List.mem_map.1 ht
    exact ⟨fun _ => rfl, by simp [Stage.results], by simp [Stage.results]⟩
  stopped := by simp [start]

lemma Sound.step (h : c.Sound settings examples) (hs : Step is settings c c') :
    c'.Sound settings examples := by
  cases hs with
  | @goes l₁ l₂ l a b stopped stopped' hg =>
    refine ⟨?_, fun t ht => ?_, fun hstop => ?_⟩
    · simpa using h.languages
    · rcases List.mem_append.1 ht with ht | ht
      · exact (h.tells t (by simp [ht])).mono hg.stopped_mono
      rcases List.mem_cons.1 ht with rfl | ht
      · exact hg.tells (h.tells (l, a) (by simp))
      · exact (h.tells t (by simp [ht])).mono hg.stopped_mono
    · rcases hg.of_stopped hstop with hstop | ⟨hf, hfails⟩
      · obtain ⟨hf, t, ht, hfails⟩ := h.stopped hstop
        refine ⟨hf, ?_⟩
        rcases List.mem_append.1 ht with ht | ht
        · exact ⟨t, by simp [ht], hfails⟩
        rcases List.mem_cons.1 ht with rfl | ht
        · exact ⟨(l, b), by simp, hg.fails hfails⟩
        · exact ⟨t, by simp [ht], hfails⟩
      · exact ⟨hf, (l, b), by simp, hfails⟩

theorem Sound.reaches (h : c.Sound settings examples) (hr : Reaches is settings c c') :
    c'.Sound settings examples := by
  induction hr with
  | refl => exact h
  | step hs _ ih => exact ih (h.step hs)

/-- What is done of a language are examples of it. -/
lemma Sound.mem_ofLanguage (h : c.Sound settings examples) {t : String × Stage σ}
    (ht : t ∈ c.stages) {i : Nat} {o : Outcome} (ho : (i, o) ∈ t.2.results) :
    (i, o.subject) ∈ ofLanguage t.1 (numbered examples) := by
  rw [← (h.tells t ht).covers (Stage.isLost_eq_false ho)]
  exact List.mem_append_left _ (List.mem_map_of_mem (f := fun o => (o.1, o.2.subject)) ho)

/-- Examples of one language are in the hands of one. -/
lemma Sound.eq_of_fst (h : c.Sound settings examples) {t t' : String × Stage σ}
    (ht : t ∈ c.stages) (ht' : t' ∈ c.stages) (hl : t.1 = t'.1) : t = t' :=
  List.inj_on_of_nodup_map (h.languages ▸ languagesOf_nodup examples) ht ht' hl

lemma subject_unique {i : Nat} {e e' : Example} {l l' : String}
    (he : (i, e) ∈ ofLanguage l (numbered examples))
    (he' : (i, e') ∈ ofLanguage l' (numbered examples)) : e = e' ∧ l = l' := by
  obtain ⟨hi, rfl⟩ := Execution.mem_ofLanguage.1 he
  obtain ⟨hi', rfl⟩ := Execution.mem_ofLanguage.1 he'
  obtain rfl := Option.some.inj ((mem_numbered.1 hi).symm.trans (mem_numbered.1 hi'))
  exact ⟨rfl, rfl⟩

lemma exists_of_outcomeAt? {i : Nat} {o : Outcome} (h : c.outcomeAt? i = some o) :
    ∃ t ∈ c.stages, (i, o) ∈ t.2.results := by
  obtain ⟨t, ht, hfound⟩ := List.exists_of_findSome?_eq_some h
  obtain ⟨⟨j, o'⟩, hmem, rfl⟩ := Option.map_eq_some_iff.1 hfound
  obtain rfl : j = i := by simpa using List.find?_some hmem
  exact ⟨t, ht, List.mem_of_find?_eq_some hmem⟩

/-- A number has one outcome. -/
lemma Sound.outcomeAt?_eq (h : c.Sound settings examples) {t : String × Stage σ}
    (ht : t ∈ c.stages) {i : Nat} {o : Outcome} (ho : (i, o) ∈ t.2.results) :
    c.outcomeAt? i = some o := by
  cases hfound : c.outcomeAt? i with
  | none =>
    have hnone := List.findSome?_eq_none_iff.1 hfound t ht
    rw [Option.map_eq_none_iff, List.find?_eq_none] at hnone
    exact absurd (hnone _ ho) (by simp)
  | some o' =>
    obtain ⟨t', ht', ho'⟩ := exists_of_outcomeAt? hfound
    obtain ⟨-, hl⟩ := subject_unique (h.mem_ofLanguage ht ho) (h.mem_ofLanguage ht' ho')
    obtain rfl := h.eq_of_fst ht ht' hl
    have hkeys : (t.2.results.map Prod.fst).Nodup := by
      have := ofLanguage_nodup t.1 examples
      rw [← (h.tells t ht).covers (Stage.isLost_eq_false ho), List.map_append,
        List.map_map] at this
      exact (List.nodup_append.1 this).1
    exact congrArg some (Prod.mk.inj (List.inj_on_of_nodup_map hkeys ho' ho rfl)).2

/-- The examples of a language that was lost have no outcomes. -/
lemma Sound.outcomeAt?_eq_none (h : c.Sound settings examples) {t : String × Stage σ}
    (ht : t ∈ c.stages) (hlost : t.2.isLost = true) {i : Nat} {e : Example}
    (he : (i, e) ∈ ofLanguage t.1 (numbered examples)) : c.outcomeAt? i = none := by
  cases hfound : c.outcomeAt? i with
  | none => rfl
  | some o =>
    obtain ⟨t', ht', ho⟩ := exists_of_outcomeAt? hfound
    obtain ⟨-, hl⟩ := subject_unique he (h.mem_ofLanguage ht' ho)
    obtain rfl := h.eq_of_fst ht ht' hl
    cases hlost.symm.trans (Stage.isLost_eq_false ho)

/-- Of a language that failed an example is told so. -/
lemma Sound.exists_failure (h : c.Sound settings examples) {t : String × Stage σ}
    (ht : t ∈ c.stages) (hfails : t.2.Fails) :
    ∃ o ∈ c.outcomes examples, o.state = .failed ∨ o.state = .errored := by
  rcases hfails with hlost | ⟨⟨i, o⟩, ho, hstate⟩
  · have hl : t.1 ∈ languagesOf examples := h.languages ▸ List.mem_map_of_mem ht
    obtain ⟨e, he, hlanguage⟩ := mem_languagesOf.1 hl
    obtain ⟨i, hi⟩ := List.mem_iff_getElem?.1 he
    have hmem := mem_numbered.2 hi
    refine ⟨.lost e, List.mem_map.2 ⟨(i, e), hmem, ?_⟩, .inr rfl⟩
    rw [h.outcomeAt?_eq_none ht hlost (Execution.mem_ofLanguage.2 ⟨hmem, hlanguage⟩),
      Option.getD_none]
  · have hmem := (Execution.mem_ofLanguage.1 (h.mem_ofLanguage ht ho)).1
    refine ⟨o, List.mem_map.2 ⟨(i, o.subject), hmem, ?_⟩, hstate⟩
    rw [h.outcomeAt?_eq ht ho, Option.getD_some]

/-- Every outcome of a file is one that a language has, or it was lost. -/
lemma outcomes_cases {o : Outcome} (ho : o ∈ c.outcomes examples) :
    (∃ t ∈ c.stages, ∃ i, (i, o) ∈ t.2.results) ∨ ∃ e, o = .lost e := by
  obtain ⟨⟨i, e⟩, -, rfl⟩ := List.mem_map.1 ho
  cases hfound : c.outcomeAt? i with
  | none => exact .inr ⟨e, rfl⟩
  | some o =>
    obtain ⟨t, ht, ho⟩ := exists_of_outcomeAt? hfound
    exact .inl ⟨t, ht, i, ho⟩

theorem Sound.complete (h : c.Sound settings examples) :
    Complete settings examples (c.outcomes examples) where
  subjects := by
    rw [outcomes, List.map_map]
    conv_rhs => rw [← numbered_map_snd examples]
    refine List.map_congr_left fun x hx => ?_
    obtain ⟨i, e⟩ := x
    rw [Function.comp_apply]
    cases hfound : c.outcomeAt? i with
    | none => rfl
    | some o =>
      obtain ⟨t, ht, ho⟩ := exists_of_outcomeAt? hfound
      have hl := Execution.mem_ofLanguage.2 ⟨hx, rfl⟩
      exact (subject_unique (h.mem_ofLanguage ht ho) hl).1
  consistent := fun o ho => by
    rcases outcomes_cases ho with ⟨t, ht, i, ho⟩ | ⟨e, rfl⟩
    · exact (h.tells t ht).consistent _ ho
    · exact Outcome.consistent_errored _ _ _ _
  pending := by
    rintro ⟨o, ho, hstate⟩
    rcases outcomes_cases ho with ⟨t, ht, i, ho⟩ | ⟨e, rfl⟩
    · obtain ⟨hfast, t', ht', hfails⟩ := h.stopped ((h.tells t ht).pending _ ho hstate)
      exact ⟨hfast, h.exists_failure ht' hfails⟩
    · simp [Outcome.lost, Outcome.errored] at hstate

end Crew

/-- Where a language that had done some examples is after a run of the others. -/
structure Stage.IsAfter (b : Stage σ) (r : LanguageRun) (done : List Entry) : Prop where
  isOver : b.isOver = true
  isLost : b.isLost = r.panicked
  results : b.isLost = false → b.results = done.map Entry.result ++ r.outcomes
  calls : b.calls = done.flatMap Entry.exchanges ++ r.exchanges

/-- A run with one example more in front. -/
lemma Stage.IsAfter.of_snoc {b : Stage σ} {r r' : LanguageRun} {done : List Entry} {x : Entry}
    (h : b.IsAfter r' (done ++ [x])) (hp : r.panicked = r'.panicked)
    (ho : r'.panicked = false → r.outcomes = x.result :: r'.outcomes)
    (hcalls : r.exchanges = x.exchanges ++ r'.exchanges) : b.IsAfter r done where
  isOver := h.isOver
  isLost := h.isLost.trans hp.symm
  results := fun hlost => by
    rw [h.results hlost, ho (h.isLost.symm.trans hlost)]
    simp
  calls := by
    rw [h.calls, hcalls]
    simp

variable {language : String} {m : Memory σ} {todo : List (Nat × Example)}

/-- A run that has stopped before it began does not panic. -/
lemma panicked_runFrom_true :
    (runFrom is settings language m true todo).panicked = false := by
  induction todo with
  | nil => rfl
  | cons x todo ih => exact ih

/-- A run that panics leaves no outcomes. -/
lemma outcomes_of_panicked {stopped : Bool}
    (h : (runFrom is settings language m stopped todo).panicked = true) :
    (runFrom is settings language m stopped todo).outcomes = [] := by
  cases stopped with
  | true => simp [panicked_runFrom_true] at h
  | false =>
    cases todo with
    | nil => rfl
    | cons x todo =>
      obtain ⟨i, e⟩ := x
      rw [runFrom] at h ⊢
      cases ho : (step is settings m e).outcome with
      | none => simp [ho]
      | some o =>
        simp only [ho, Bool.false_eq_true, if_false] at h ⊢
        rw [if_pos h]

/-- Where a language is at the end of its run. -/
structure Stage.EndsAs (b : Stage σ) (r : LanguageRun) : Prop where
  isOver : b.isOver = true
  results : b.results = r.outcomes
  calls : b.calls = r.exchanges
  isLost : Calm r.exchanges → b.isLost = false

lemma Stage.IsAfter.endsAs {b : Stage σ} {stopped : Bool}
    (h : b.IsAfter (runFrom is settings language m stopped todo) []) :
    b.EndsAs (runFrom is settings language m stopped todo) where
  isOver := h.isOver
  results := by
    cases hlost : b.isLost with
    | false => simpa using h.results hlost
    | true =>
      rw [outcomes_of_panicked (h.isLost.symm.trans hlost)]
      cases b with
      | lost => rfl
      | looking | executing | ended => cases hlost
  calls := by simpa using h.calls
  isLost := fun hcalm => h.isLost.trans (panicked_eq_false_of_calm hcalm)

namespace Crew
variable (is : Interpreters σ) (settings : Settings)

/-- A language runs to its end while the others rest. -/
lemma reaches_runFrom (l₁ l₂ : List (String × Stage σ)) (language : String) (m : Memory σ)
    (stopped : Bool) (todo : List (Nat × Example)) (done : List Entry) :
    ∃ b : Stage σ, b.IsAfter (runFrom is settings language m stopped todo) done ∧
      Reaches is settings ⟨l₁ ++ (language, .looking todo m done) :: l₂, stopped⟩
        ⟨l₁ ++ (language, b) :: l₂, (runFrom is settings language m stopped todo).stopped⟩ := by
  induction todo generalizing m stopped done with
  | nil =>
    refine ⟨.ended m done, ⟨rfl, rfl, fun _ => ?_, rfl⟩, .step (.goes .finish) (.refl _)⟩
    simp [Stage.results, runFrom, closing]
  | cons x todo ih =>
    obtain ⟨i, e⟩ := x
    cases stopped with
    | true =>
      obtain ⟨b, hb, hreaches⟩ := ih m true (done ++ [.unreached (i, e)])
      exact ⟨b, hb.of_snoc rfl (fun _ => rfl) rfl, .step (.goes .pass) hreaches⟩
    | false =>
      cases ho : (step is settings m e).outcome with
      | none =>
        refine ⟨.lost (done.flatMap Entry.exchanges ++ (step is settings m e).exchanges), ?_,
          .step (.goes .enter) ?_⟩
        · exact ⟨rfl, by simp [runFrom, ho], by simp, by simp [runFrom, ho]⟩
        · simp only [runFrom, ho, Bool.false_eq_true, if_false]
          exact .step (.goes (.perish (x := (i, e)) ho)) (.refl _)
      | some o =>
        let entry : Entry := ⟨i, e, o, (step is settings m e).exchanges⟩
        obtain ⟨b, hb, hreaches⟩ :=
          ih (step is settings m e).memory (stops settings o) (done ++ [entry])
        refine ⟨b, hb.of_snoc (by simp [runFrom, ho]) (fun h => ?_) (by simp [runFrom, ho, entry]),
          .step (.goes .enter) ?_⟩
        · simp [runFrom, ho, h, entry, Entry.result]
        · simp only [runFrom, ho, Bool.false_eq_true, if_false]
          exact .step (.goes (.execute (x := (i, e)) ho)) hreaches

/-- Each language runs to its end before the next one. -/
lemma reaches_runLanguages (xs : List (Nat × Example)) (ls : List String)
    (front : List (String × Stage σ)) (stopped : Bool) :
    ∃ (back : List (String × Stage σ)) (stopped' : Bool),
      List.Forall₂ (fun r t => r.1 = t.1 ∧ Stage.EndsAs t.2 r.2)
        (runLanguages is settings xs stopped ls) back ∧
      Reaches is settings
        ⟨front ++ ls.map fun l => (l, .looking (ofLanguage l xs) .fresh []), stopped⟩
        ⟨front ++ back, stopped'⟩ := by
  induction ls generalizing front stopped with
  | nil => exact ⟨[], stopped, .nil, .refl _⟩
  | cons l ls ih =>
    obtain ⟨b, hb, hfirst⟩ := reaches_runFrom is settings front
      (ls.map fun l => (l, .looking (ofLanguage l xs) .fresh [])) l .fresh stopped
      (ofLanguage l xs) []
    obtain ⟨back, stopped', hback, hrest⟩ := ih (front ++ [(l, b)]) _
    refine ⟨(l, b) :: back, stopped', .cons ⟨rfl, hb.endsAs⟩ hback, hfirst.trans ?_⟩
    simpa using hrest

variable {is settings}

lemma exists_endsAs {runs : List (String × LanguageRun)} {stages : List (String × Stage σ)}
    (h : List.Forall₂ (fun r t => r.1 = t.1 ∧ Stage.EndsAs t.2 r.2) runs stages) :
    ∀ t ∈ stages, ∃ r, t.2.EndsAs r := by
  induction h with
  | nil => simp
  | cons ht _ ih => exact List.forall_mem_cons.2 ⟨⟨_, ht.2⟩, ih⟩

lemma outcomeAt?_of_endsAs {runs : List (String × LanguageRun)}
    {stages : List (String × Stage σ)} (stopped : Bool)
    (h : List.Forall₂ (fun r t => r.1 = t.1 ∧ Stage.EndsAs t.2 r.2) runs stages) (i : Nat) :
    (⟨stages, stopped⟩ : Crew σ).outcomeAt? i = Execution.outcomeAt? runs i := by
  unfold outcomeAt? Execution.outcomeAt?
  induction h with
  | nil => rfl
  | cons ht _ ih => simp only [List.findSome?_cons, ht.2.results, ih]

lemma exchanges_of_endsAs {runs : List (String × LanguageRun)}
    {stages : List (String × Stage σ)} (stopped : Bool)
    (h : List.Forall₂ (fun r t => r.1 = t.1 ∧ Stage.EndsAs t.2 r.2) runs stages) :
    (⟨stages, stopped⟩ : Crew σ).exchanges = runs.map fun r => (r.1, r.2.exchanges) := by
  unfold exchanges
  induction h with
  | nil => rfl
  | cons ht _ ih => simp only [List.map_cons, ht.1, ht.2.calls, ih]

end Crew

/-- One language after the other is one way of running them beside each other: the outcomes and
the exchanges are the same, and only a language that panics is lost. -/
theorem exists_endOf_runExamples (is : Interpreters σ) (settings : Settings)
    (examples : List Example) :
    ∃ c : Crew σ, c.EndOf is settings examples ∧
      c.outcomes examples = (runExamples is settings examples).outcomes ∧
      c.exchanges = (runExamples is settings examples).exchanges ∧
      ∀ t ∈ c.stages, Calm t.2.calls → t.2.isLost = false := by
  obtain ⟨stages, stopped, hruns, hreaches⟩ :=
    Crew.reaches_runLanguages is settings (numbered examples) (languagesOf examples) [] false
  have hends := Crew.exists_endsAs hruns
  refine ⟨⟨stages, stopped⟩, ⟨hreaches, fun t ht => ?_⟩, ?_, ?_, fun t ht hcalm => ?_⟩
  · obtain ⟨r, hr⟩ := hends t ht
    exact hr.isOver
  · refine List.map_congr_left fun x _ => ?_
    exact congrArg (Option.getD · (Outcome.lost x.2)) (Crew.outcomeAt?_of_endsAs stopped hruns x.1)
  · exact Crew.exchanges_of_endsAs stopped hruns
  · obtain ⟨r, hr⟩ := hends t ht
    exact hr.isLost (hr.calls ▸ hcalm)

/-- What comes of one language after the other can come of them beside each other. -/
theorem possible_runExamples (is : Interpreters σ) (settings : Settings)
    (examples : List Example) :
    Possible is settings examples (runExamples is settings examples).outcomes := by
  obtain ⟨c, hc, houtcomes, -⟩ := exists_endOf_runExamples is settings examples
  exact ⟨c, hc, houtcomes.symm⟩

theorem Possible.complete {outcomes : List Outcome}
    (h : Possible is settings examples outcomes) : Complete settings examples outcomes := by
  obtain ⟨c, hc, rfl⟩ := h
  exact ((Crew.sound_start settings examples).reaches hc.reaches).complete

/-- Every example gets exactly one outcome, a consistent one, and none is left waiting but behind a
failure that stops the run: this holds of the languages run one after the other, and of everything
that can come of them beside each other. -/
theorem runExamples_complete (is : Interpreters σ) (settings : Settings)
    (examples : List Example) :
    Complete settings examples (runExamples is settings examples).outcomes ∧
      Possible is settings examples (runExamples is settings examples).outcomes ∧
      ∀ outcomes, Possible is settings examples outcomes →
        Complete settings examples outcomes := by
  have hown := possible_runExamples is settings examples
  exact ⟨hown.complete, hown, fun _ h => h.complete⟩

/-- A time limit of one language stops the run; it is too late for the example of the other one,
which was begun before, but the next example of its own language is left waiting. -/
theorem runExamples_complete_begun :
    ∃ (is : Interpreters Scripted) (settings : Settings) (xs : List Example)
      (outcomes : List Outcome), Possible is settings xs outcomes ∧
      Complete settings xs outcomes ∧
      outcomes.map Outcome.state = [.errored, .pending, .passed] ∧
      (runExamples is settings xs).outcomes.map Outcome.state = [.errored, .pending, .pending] := by
  let is := Scripted.interpreters
    [("python", ⟨.opens, [("spin".toList, [.response ⟨"1".toList, .timedOut⟩])]⟩)]
  let settings : Settings := ⟨⟨5⟩, true, { Options.none with pass := true }⟩
  let spin : Example := ⟨"python", ["spin".toList], [], 1, [], Options.none⟩
  let go : Example := ⟨"python", ["go".toList], [], 3, [], Options.none⟩
  let ls : Example := ⟨"shell", ["ls".toList], [], 5, [], Options.none⟩
  let late : Outcome := .errored spin (some "1".toList) (.timedOut ⟨5⟩)
  let echoed : Outcome := .accepted ls "ls\n".toList
  let spun := step is settings .fresh spin
  let listed := step is settings .fresh ls
  let c : Crew Scripted :=
    ⟨[("python", .ended spun.memory [⟨0, spin, late, spun.exchanges⟩, .unreached (1, go)]),
      ("shell", .ended listed.memory [⟨2, ls, echoed, listed.exchanges⟩])], true⟩
  have hlanguages : languagesOf [spin, go, ls] = ["python", "shell"] := by decide +kernel
  have hpython : ofLanguage "python" (numbered [spin, go, ls]) = [(0, spin), (1, go)] := by
    decide +kernel
  have hshell : ofLanguage "shell" (numbered [spin, go, ls]) = [(2, ls)] := by decide +kernel
  have hstart : (Crew.start [spin, go, ls] : Crew Scripted) =
      ⟨[("python", .looking [(0, spin), (1, go)] .fresh []),
        ("shell", .looking [(2, ls)] .fresh [])], false⟩ := by
    simp only [Crew.start, hlanguages, List.map_cons, List.map_nil, hpython, hshell]
  have hspin : (step is settings .fresh spin).outcome = some late := by decide +kernel
  have hls : (step is settings .fresh ls).outcome = some echoed := by decide +kernel
  have hreaches : Crew.Reaches is settings (.start [spin, go, ls]) c := by
    rw [hstart]
    refine .step (@Crew.Step.goes _ is settings [("python", _)] [] "shell" _ _ _ _ .enter) ?_
    refine .step (@Crew.Step.goes _ is settings [] _ "python" _ _ _ _ .enter) ?_
    refine .step (@Crew.Step.goes _ is settings [] _ "python" _ _ _ _ (.execute hspin)) ?_
    refine .step (@Crew.Step.goes _ is settings [("python", _)] [] "shell" _ _ _ _
      (.execute hls)) ?_
    refine .step (@Crew.Step.goes _ is settings [] _ "python" _ _ _ _ .pass) ?_
    refine .step (@Crew.Step.goes _ is settings [] _ "python" _ _ _ _ .finish) ?_
    refine .step (@Crew.Step.goes _ is settings [("python", _)] [] "shell" _ _ _ _ .finish) ?_
    exact .refl c
  have hpossible : Possible is settings [spin, go, ls] (c.outcomes [spin, go, ls]) :=
    ⟨c, ⟨hreaches, by simp [Crew.Finished, c]⟩, rfl⟩
  refine ⟨is, settings, [spin, go, ls], _, hpossible,
    (runExamples_complete is settings [spin, go, ls]).2.2 _ hpossible, ?_, ?_⟩
  · decide +kernel
  · decide +kernel

end Exemplar.Execution
