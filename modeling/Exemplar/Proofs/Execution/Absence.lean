import Exemplar.Proofs.Execution.Account

/-!
# Examples that leave no trace

An example for which nothing is exchanged leaves the memory of its language as it was. So, unless
failures stop the run, the file without that example has the same outcomes for all the others, and
the same is exchanged with every interpreter.
-/
namespace Exemplar.Execution
open Session Expected

/-- Lists with the same keys that agree on what they have for each key are the same. -/
lemma eq_of_filter_key {α κ : Type} [BEq κ] [LawfulBEq κ] (key : α → κ) {as bs : List α}
    (hkeys : as.map key = bs.map key)
    (h : ∀ k, as.filter (fun a => key a == k) = bs.filter (fun b => key b == k)) : as = bs := by
  induction as generalizing bs with
  | nil => exact (List.map_eq_nil_iff.1 hkeys.symm).symm
  | cons a as ih =>
    cases bs with
    | nil => cases hkeys
    | cons b bs =>
      obtain ⟨hkey, hrest⟩ := List.cons.inj hkeys
      have hhead := h (key a)
      rw [List.filter_cons_of_pos (by simp), List.filter_cons_of_pos (by simp [hkey])] at hhead
      obtain ⟨rfl, -⟩ := List.cons.inj hhead
      refine congrArg (a :: ·) (ih hrest fun k => ?_)
      have hk := h k
      rw [List.filter_cons, List.filter_cons] at hk
      split at hk
      · exact (List.cons.inj hk).2
      · exact hk

variable {σ : Type} {is : Interpreters σ} {settings : Settings}

/-- Without an exchange nothing is carried on that was not there before. -/
lemma Turn.memory_eq {m : Memory σ} {e : Example} {s : Step σ} (h : Turn is settings m e s)
    (hs : s.exchanges = []) : s.memory = m := by
  cases h with
  | skipped | broken | unready => rfl
  | refused => cases hs
  | sent | lost => simp at hs

/-- What an entry tells, whatever the number of its example. -/
def Entry.told (x : Entry) : Outcome × List Exchange := (x.outcome, x.exchanges)

namespace Ledger
variable {m m' n : Memory σ} {stopped : Bool} {first rest : List (Nat × Example)}
  {es fs gs : List Entry}

lemma split (hf : settings.failFast = false)
    (h : Ledger is settings m false (first ++ rest) es m') :
    ∃ fs gs n, es = fs ++ gs ∧ Ledger is settings m false first fs n ∧
      Ledger is settings n false rest gs m' := by
  induction first generalizing m es with
  | nil => exact ⟨[], es, m, rfl, .done, h⟩
  | cons x first ih =>
    cases h with
    | step hs h =>
      rw [not_stops hf] at h
      obtain ⟨fs, gs, n, rfl, hfirst, hrest⟩ := ih h
      exact ⟨_, gs, n, rfl, .step hs (by rwa [not_stops hf]), hrest⟩

lemma append (hf : settings.failFast = false) (h : Ledger is settings m stopped first fs n)
    (hs : stopped = false) (h' : Ledger is settings n false rest gs m') :
    Ledger is settings m false (first ++ rest) (fs ++ gs) m' := by
  induction h with
  | done => exact h'
  | unreached => cases hs
  | step hstep _ ih => exact .step hstep (by rw [not_stops hf]; exact ih (not_stops hf _) h')

/-- The same examples under other numbers. -/
lemma renumbered (h : Ledger is settings m stopped first es m')
    (ho : rest.map Prod.snd = first.map Prod.snd) :
    ∃ fs, Ledger is settings m stopped rest fs m' ∧ fs.map Entry.told = es.map Entry.told := by
  induction h generalizing rest with
  | done =>
    obtain rfl := List.map_eq_nil_iff.1 ho
    exact ⟨[], .done, rfl⟩
  | unreached _ ih =>
    obtain ⟨⟨j, e'⟩, rest, rfl, he, hrest⟩ := List.map_eq_cons_iff.1 ho
    obtain rfl : e' = _ := he
    obtain ⟨fs, hl, htold⟩ := ih hrest
    exact ⟨_, hl.unreached, congrArg (_ :: ·) htold⟩
  | step hs _ ih =>
    obtain ⟨⟨j, e'⟩, rest, rfl, he, hrest⟩ := List.map_eq_cons_iff.1 ho
    obtain rfl : e' = _ := he
    obtain ⟨fs, hl, htold⟩ := ih hrest
    exact ⟨_, .step hs hl, congrArg (_ :: ·) htold⟩

end Ledger

/-- Examples with numbers that begin at `n`. -/
def numberedFrom (n : Nat) (xs : List Example) : List (Nat × Example) :=
  (xs.zipIdx n).map fun e => (e.2, e.1)

lemma numberedFrom_append (n : Nat) (xs ys : List Example) :
    numberedFrom n (xs ++ ys) = numberedFrom n xs ++ numberedFrom (n + xs.length) ys := by
  rw [numberedFrom, List.zipIdx_append, List.map_append]
  rfl

lemma numberedFrom_map_snd (n : Nat) (xs : List Example) :
    (numberedFrom n xs).map Prod.snd = xs := by
  rw [numberedFrom, List.map_map]
  exact List.zipIdx_map_fst n xs

/-- All examples of a file but one, with the numbers that they have there. -/
def others (before behind : List Example) : List (Nat × Example) :=
  numbered before ++ numberedFrom (before.length + 1) behind

lemma others_map_snd (before behind : List Example) :
    (others before behind).map Prod.snd = before ++ behind := by
  rw [others, List.map_append, numbered_map_snd, numberedFrom_map_snd]

variable {before behind : List Example} {e : Example}

lemma numbered_append_cons :
    numbered (before ++ e :: behind) =
      numbered before ++ (before.length, e) :: numberedFrom (before.length + 1) behind := by
  show numberedFrom 0 _ = _
  rw [numberedFrom_append, Nat.zero_add]
  rfl

lemma others_subset : others before behind ⊆ numbered (before ++ e :: behind) := by
  rw [numbered_append_cons]
  exact List.append_subset.2 ⟨List.subset_append_left _ _,
    List.Subset.trans (List.subset_cons_self _ _) (List.subset_append_right _ _)⟩

/-- Where an example stands among the entries of its language: the entries before it, its own
step from one memory to the next, and the entries behind. -/
structure Stands (is : Interpreters σ) (settings : Settings) (before : List Example) (e : Example)
    (behind : List Example) (fs : List Entry) (x : Entry) (gs : List Entry) (m n : Memory σ) :
    Prop where
  numbered_eq : x.numbered = (before.length, e)
  earlier : Ledger is settings .fresh false (ofLanguage e.language (numbered before)) fs m
  step_eq : step is settings m e = ⟨some x.outcome, x.exchanges, n⟩
  later : ∃ m', Ledger is settings n false
    (ofLanguage e.language (numberedFrom (before.length + 1) behind)) gs m'

lemma Account.exists_stands (hf : settings.failFast = false) {es : List Entry}
    (h : Account is settings (before ++ e :: behind) e.language es) :
    ∃ fs x gs m n, es = fs ++ x :: gs ∧ Stands is settings before e behind fs x gs m n := by
  obtain ⟨m', hl⟩ := h.ledger
  have hparts : ofLanguage e.language (numbered (before ++ e :: behind)) =
      ofLanguage e.language (numbered before) ++
        (before.length, e) ::
          ofLanguage e.language (numberedFrom (before.length + 1) behind) := by
    rw [numbered_append_cons]
    simp [ofLanguage]
  rw [hparts] at hl
  obtain ⟨fs, gs, m, rfl, hearlier, hrest⟩ := hl.split hf
  cases hrest with
  | step hs hlater =>
    rw [not_stops hf] at hlater
    exact ⟨fs, _, _, m, _, rfl, rfl, hearlier, hs, m', hlater⟩

/-- The file without an example runs as it does with it: the others have the same outcomes, and
the same is exchanged with every interpreter. -/
def AsIfAbsent (is : Interpreters σ) (settings : Settings) (before : List Example) (e : Example)
    (behind : List Example) : Prop :=
  (runExamples is settings (before ++ behind)).outcomes =
      (runExamples is settings (before ++ e :: behind)).outcomes.eraseIdx before.length ∧
    ∀ l, (runExamples is settings (before ++ behind)).callsOf l =
      (runExamples is settings (before ++ e :: behind)).callsOf l

lemma ofLanguage_numbered_of_ne {l : String} (h : e.language ≠ l) :
    ofLanguage l (numbered (before ++ e :: behind)) = ofLanguage l (others before behind) := by
  rw [numbered_append_cons, others]
  simp [ofLanguage, h]

lemma outcomes_eraseIdx :
    (runExamples is settings (before ++ e :: behind)).outcomes.eraseIdx before.length =
      (others before behind).map (outcomeOf is settings (before ++ e :: behind)) := by
  let outcomeOf := outcomeOf is settings (before ++ e :: behind)
  have hlength : ((numbered before).map outcomeOf).length = before.length := by simp [numbered]
  rw [outcomes_eq_map, numbered_append_cons, List.map_append, List.map_cons,
    List.eraseIdx_append_of_length_le hlength.le, hlength, Nat.sub_self, others, List.map_append]
  rfl

section
variable {fs gs : List Entry} {x : Entry} {m n : Memory σ} {l : String}
  (hf : settings.failFast = false)
  (hacc : Account is settings (before ++ e :: behind) e.language (fs ++ x :: gs))
  (hstands : Stands is settings before e behind fs x gs m n) (hx : x.exchanges = [])
include hf hacc hstands hx

/-- An example without exchanges can be left out of the ledger of any language. -/
lemma exists_without (hcalm : CalmIn is settings l (before ++ e :: behind)) :
    ∃ es rs m', Account is settings (before ++ e :: behind) l es ∧
      Ledger is settings .fresh false (ofLanguage l (others before behind)) rs m' ∧
      rs ⊆ es ∧ rs.flatMap Entry.exchanges = es.flatMap Entry.exchanges := by
  by_cases hl : e.language = l
  · subst hl
    obtain ⟨m', hlater⟩ := hstands.later
    obtain rfl : n = m := (turn_of_step hstands.step_eq).memory_eq hx
    have hothers : ofLanguage e.language (others before behind) =
        ofLanguage e.language (numbered before) ++
          ofLanguage e.language (numberedFrom (before.length + 1) behind) :=
      List.filter_append ..
    refine ⟨fs ++ x :: gs, fs ++ gs, m', hacc, ?_, ?_, by simp [hx]⟩
    · rw [hothers]
      exact hstands.earlier.append hf rfl hlater
    · exact List.append_subset.2 ⟨List.subset_append_left _ _,
        List.Subset.trans (List.subset_cons_self _ _) (List.subset_append_right _ _)⟩
  · obtain ⟨es, hes⟩ := hcalm.exists_account hf
    obtain ⟨m', hledger⟩ := hes.ledger
    rw [ofLanguage_numbered_of_ne hl] at hledger
    exact ⟨es, es, m', hes, hledger, List.Subset.refl _, rfl⟩

/-- To a language the file without the example is the file with it. -/
lemma agree_without (hcalm : CalmIn is settings l (before ++ e :: behind)) :
    (runExamples is settings (before ++ behind)).outcomes.filter
        (fun o => o.subject.language == l) =
      ((runExamples is settings (before ++ e :: behind)).outcomes.eraseIdx before.length).filter
        (fun o => o.subject.language == l) ∧
    (runExamples is settings (before ++ behind)).callsOf l =
      (runExamples is settings (before ++ e :: behind)).callsOf l := by
  obtain ⟨es, rs, m', hes, hledger, hsub, hcalls⟩ := exists_without hf hacc hstands hx hcalm
  have hsame : (ofLanguage l (numbered (before ++ behind))).map Prod.snd =
      (ofLanguage l (others before behind)).map Prod.snd := by
    rw [ofLanguage_map_snd, ofLanguage_map_snd, numbered_map_snd, others_map_snd]
  obtain ⟨qs, hqs, htold⟩ := hledger.renumbered hsame
  have hshort := hqs.account fun hin => mem_runsOf hf hin
  have houtcomes : qs.map Entry.outcome = rs.map Entry.outcome := by
    simpa [Function.comp_def, Entry.told] using congrArg (List.map Prod.fst) htold
  have hexchanges : qs.flatMap Entry.exchanges = rs.flatMap Entry.exchanges := by
    simpa [Entry.told, List.flatMap_map] using congrArg (List.flatMap Prod.snd) htold
  refine ⟨?_, by rw [hshort.calls, hes.calls, hexchanges, hcalls]⟩
  obtain ⟨m'', hfull⟩ := hes.ledger
  rw [hshort.outcomes, houtcomes, outcomes_eraseIdx, filter_map_outcomeOf others_subset,
    ← hledger.numbered_eq, List.map_map]
  exact (List.map_congr_left fun y hy =>
    hfull.outcomeOf_numbered (fun hin => mem_runsOf hf hin) (hsub hy)).symm

/-- An example without exchanges might as well not be there. -/
theorem asIfAbsent (hcalm : ∀ l, CalmIn is settings l (before ++ e :: behind)) :
    AsIfAbsent is settings before e behind := by
  refine ⟨eq_of_filter_key (fun o => o.subject.language) ?_ fun l =>
    (agree_without hf hacc hstands hx (hcalm l)).1,
    fun l => (agree_without hf hacc hstands hx (hcalm l)).2⟩
  have hshort := (possible_runExamples is settings (before ++ behind)).complete.subjects
  have hlong : ((others before behind).map (outcomeOf is settings (before ++ e :: behind))).map
      Outcome.subject = before ++ behind := by
    rw [List.map_map]
    exact (List.map_congr_left fun y hy => subject_outcomeOf (others_subset hy)).trans
      (others_map_snd before behind)
  have hlanguages := congrArg (List.map Example.language) (hshort.trans hlong.symm)
  rw [outcomes_eraseIdx]
  simpa [List.map_map, Function.comp_def] using hlanguages

end

end Exemplar.Execution
