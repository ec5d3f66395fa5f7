import Exemplar.Execution.Crew
import Exemplar.Proofs.Execution.Step
import Mathlib.Data.List.Nodup
import Mathlib.Data.String.Basic

/-!
# The ledger of a run

A run of one language that does not panic is told entry by entry: what became of each example
and what was exchanged for it. The entries of a language make up its exchanges, and their
outcomes are those of the file at their numbers, because no other language has these numbers.
-/
namespace Exemplar.Execution
open Session Expected

variable {σ : Type}

/-- The entries of a run from one memory to another. Once the run has stopped, the examples
behind are not reached. -/
inductive Ledger (is : Interpreters σ) (settings : Settings) :
    Memory σ → Bool → List (Nat × Example) → List Entry → Memory σ → Prop
  | done {m : Memory σ} {stopped : Bool} : Ledger is settings m stopped [] [] m
  | unreached {m m' : Memory σ} {i : Nat} {e : Example} {rest : List (Nat × Example)}
      {xs : List Entry} (h : Ledger is settings m true rest xs m') :
      Ledger is settings m true ((i, e) :: rest) (⟨i, e, .unreached e, []⟩ :: xs) m'
  | step {m m' : Memory σ} {i : Nat} {e : Example} {rest : List (Nat × Example)}
      {xs : List Entry} {o : Outcome} {exchanges : List Exchange} {next : Memory σ}
      (hs : step is settings m e = ⟨some o, exchanges, next⟩)
      (h : Ledger is settings next (stops settings o) rest xs m') :
      Ledger is settings m false ((i, e) :: rest) (⟨i, e, o, exchanges⟩ :: xs) m'

def Exchange.panics : Exchange → Bool
  | ran _ _ .panicked => true
  | _ => false

/-- No session has panicked in these exchanges. -/
def Calm (calls : List Exchange) : Prop := ∀ x ∈ calls, x.panics = false

instance : DecidablePred Calm := fun calls =>
  inferInstanceAs (Decidable (∀ x ∈ calls, x.panics = false))

variable {is : Interpreters σ} {settings : Settings} {m m' : Memory σ} {stopped : Bool}
  {examples : List (Nat × Example)} {xs : List Entry}

/-- A ledger is what comes of a run. -/
theorem Ledger.runFrom_eq (h : Ledger is settings m stopped examples xs m') (language : String) :
    (runFrom is settings language m stopped examples).panicked = false ∧
      (runFrom is settings language m stopped examples).outcomes = xs.map Entry.result ∧
      (runFrom is settings language m stopped examples).exchanges =
        xs.flatMap Entry.exchanges ++ closed m' := by
  induction h with
  | done => exact ⟨rfl, rfl, rfl⟩
  | unreached _ ih =>
    obtain ⟨hp, ho, he⟩ := ih
    simp [runFrom, hp, ho, he, Entry.result]
  | step hs _ ih =>
    obtain ⟨hp, ho, he⟩ := ih
    simp [runFrom, hs, hp, ho, he, Entry.result]

/-- A run that does not panic has a ledger. -/
theorem exists_ledger {language : String}
    (h : (runFrom is settings language m stopped examples).panicked = false) :
    ∃ xs m', Ledger is settings m stopped examples xs m' := by
  induction examples generalizing m stopped with
  | nil => exact ⟨[], m, .done⟩
  | cons x rest ih =>
    obtain ⟨i, e⟩ := x
    rw [runFrom] at h
    cases stopped with
    | true =>
      have hrest : (runFrom is settings language m true rest).panicked = false := by
        simpa using h
      obtain ⟨xs, m', hl⟩ := ih hrest
      exact ⟨_, m', hl.unreached⟩
    | false =>
      rcases hs : step is settings m e with ⟨o, exchanges, next⟩
      rw [hs] at h
      cases o with
      | none => simp at h
      | some o =>
        have hrest :
            (runFrom is settings language next (stops settings o) rest).panicked = false := by
          simpa using h
        obtain ⟨xs, m', hl⟩ := ih hrest
        exact ⟨_, m', .step hs hl⟩

/-- A run panics only when a session does. -/
theorem panicked_eq_false_of_calm {language : String}
    (h : Calm (runFrom is settings language m stopped examples).exchanges) :
    (runFrom is settings language m stopped examples).panicked = false := by
  induction examples generalizing m stopped with
  | nil => rfl
  | cons x rest ih =>
    obtain ⟨i, e⟩ := x
    rw [runFrom] at h ⊢
    cases stopped with
    | true =>
      have hrest : Calm (runFrom is settings language m true rest).exchanges := by simpa using h
      simpa using ih hrest
    | false =>
      rcases hs : step is settings m e with ⟨o, exchanges, next⟩
      rw [hs] at h
      cases o with
      | none =>
        -- only a panicked reply leaves an example without an outcome
        cases turn_of_step hs with
        | @lost p _ _ opening =>
          have := h (.ran p.statements (settings.limitOf e) .panicked) (by simp)
          simp [Exchange.panics] at this
      | some o =>
        have hrest :
            Calm (runFrom is settings language next (stops settings o) rest).exchanges :=
          fun x hx => h x (by simpa using .inr hx)
        simpa using ih hrest

lemma Ledger.numbered_eq (h : Ledger is settings m stopped examples xs m') :
    xs.map Entry.numbered = examples := by
  induction h with
  | done => rfl
  | unreached _ ih | step _ _ ih => simp [Entry.numbered, ih]

lemma not_stops (hf : settings.failFast = false) (o : Outcome) : stops settings o = false := by
  simp [stops, hf]

lemma stopped_runFrom (hf : settings.failFast = false) (language : String) :
    (runFrom is settings language m false examples).stopped = false := by
  induction examples generalizing m with
  | nil => rfl
  | cons x rest ih =>
    obtain ⟨i, e⟩ := x
    rw [runFrom]
    simp only [Bool.false_eq_true, if_false]
    split
    · rfl
    · rw [not_stops hf]
      exact ih

lemma insertTag_subset (tag : String) (ts : List String) {t : String} :
    t ∈ insertTag tag ts ↔ t = tag ∨ t ∈ ts := by
  induction ts with
  | nil => simp [insertTag]
  | cons s ts ih =>
    rw [insertTag]
    split
    · simp
    · split
      · rename_i _ he
        simp [he]
      · simp only [List.mem_cons, ih]
        tauto

lemma insertTag_sorted {tag : String} {ts : List String} (h : ts.Pairwise (· < ·)) :
    (insertTag tag ts).Pairwise (· < ·) := by
  induction ts with
  | nil => simp [insertTag]
  | cons s ts ih =>
    obtain ⟨hs, hts⟩ := List.pairwise_cons.1 h
    rw [insertTag]
    split
    · rename_i hlt
      refine List.pairwise_cons.2 ⟨fun t ht => ?_, h⟩
      rcases List.mem_cons.1 ht with rfl | ht
      · exact hlt
      · exact lt_trans hlt (hs t ht)
    · split
      · exact h
      · rename_i hlt hne
        refine List.pairwise_cons.2 ⟨fun t ht => ?_, ih hts⟩
        rcases (insertTag_subset tag ts).1 ht with rfl | ht
        · exact lt_of_le_of_ne (not_lt.1 hlt) (Ne.symm hne)
        · exact hs t ht

/-- Every language of a file is listed once. -/
theorem languagesOf_nodup (examples : List Example) : (languagesOf examples).Nodup := by
  have hsorted : (languagesOf examples).Pairwise (· < ·) := by
    rw [languagesOf]
    induction examples.map Example.language with
    | nil => exact .nil
    | cons l ls ih => exact insertTag_sorted ih
  exact hsorted.imp ne_of_lt

lemma mem_languagesOf {examples : List Example} {l : String} :
    l ∈ languagesOf examples ↔ ∃ e ∈ examples, e.language = l := by
  rw [languagesOf, ← List.mem_map]
  induction examples.map Example.language with
  | nil => simp
  | cons t ts ih => simp [insertTag_subset, ih]

lemma mem_numbered {examples : List Example} {i : Nat} {e : Example} :
    (i, e) ∈ numbered examples ↔ examples[i]? = some e := by
  simp [numbered, List.mem_zipIdx_iff_getElem?]

lemma mem_ofLanguage {language : String} {xs : List (Nat × Example)} {x : Nat × Example} :
    x ∈ ofLanguage language xs ↔ x ∈ xs ∧ x.2.language = language := by
  simp [ofLanguage]

lemma numbered_map_fst (examples : List Example) :
    (numbered examples).map Prod.fst = List.range examples.length := by
  rw [numbered, List.map_map, List.range_eq_range']
  exact List.zipIdx_map_snd 0 examples

lemma numbered_map_snd (xs : List Example) : (numbered xs).map Prod.snd = xs := by
  rw [numbered, List.map_map]
  exact List.zipIdx_map_fst 0 xs

lemma ofLanguage_nodup (language : String) (examples : List Example) :
    ((ofLanguage language (numbered examples)).map Prod.fst).Nodup := by
  refine List.Nodup.sublist (List.filter_sublist.map Prod.fst) ?_
  rw [numbered_map_fst]
  exact List.nodup_range

/-- The runs of a file, language by language. -/
def runsOf (is : Interpreters σ) (settings : Settings) (examples : List Example) :
    List (String × LanguageRun) :=
  runLanguages is settings (numbered examples) false (languagesOf examples)

lemma runLanguages_map_fst (xs : List (Nat × Example)) (stopped : Bool) (ls : List String) :
    (runLanguages is settings xs stopped ls).map Prod.fst = ls := by
  induction ls generalizing stopped with
  | nil => rfl
  | cons l ls ih => simp [runLanguages, ih]

lemma runsOf_map_fst (is : Interpreters σ) (settings : Settings) (examples : List Example) :
    (runsOf is settings examples).map Prod.fst = languagesOf examples :=
  runLanguages_map_fst _ _ _

/-- The run of a language is a run from nothing over its examples. -/
lemma exists_runFrom_of_mem {xs : List (Nat × Example)} {stopped : Bool} {ls : List String}
    {l : String} {r : LanguageRun} (h : (l, r) ∈ runLanguages is settings xs stopped ls) :
    ∃ stopped', r = runFrom is settings l .fresh stopped' (ofLanguage l xs) ∧
      (settings.failFast = false → stopped = false → stopped' = false) := by
  induction ls generalizing stopped with
  | nil => simp [runLanguages] at h
  | cons l' ls ih =>
    rw [runLanguages] at h
    rcases List.mem_cons.1 h with h | h
    · obtain ⟨rfl, rfl⟩ := Prod.mk.inj h
      exact ⟨stopped, rfl, fun _ hs => hs⟩
    · obtain ⟨stopped', hr, hs'⟩ := ih h
      refine ⟨stopped', hr, fun hf hs => hs' hf ?_⟩
      rw [hs]
      exact stopped_runFrom hf l'

/-- The outcomes of a run have numbers of its examples. -/
lemma exists_of_mem_outcomes {language : String} {i : Nat} {o : Outcome}
    (h : (i, o) ∈ (runFrom is settings language m stopped examples).outcomes) :
    ∃ e, (i, e) ∈ examples := by
  induction examples generalizing m stopped with
  | nil => simp [runFrom, closing] at h
  | cons x rest ih =>
    obtain ⟨j, e⟩ := x
    rw [runFrom] at h
    have hstep : ∀ {m : Memory σ} {stopped : Bool} {o' : Outcome},
        (i, o) ∈ (j, o') :: (runFrom is settings language m stopped rest).outcomes →
        ∃ e', (i, e') ∈ (j, e) :: rest := by
      intro m stopped o' h
      rcases List.mem_cons.1 h with h | h
      · obtain ⟨rfl, -⟩ := Prod.mk.inj h
        exact ⟨e, by simp⟩
      · obtain ⟨e', he'⟩ := ih h
        exact ⟨e', by simp [he']⟩
    split at h
    · exact hstep h
    · dsimp only at h
      split at h
      · simp at h
      · dsimp only at h
        split at h
        · simp at h
        · exact hstep h

/-- The outcome with a number is the one that any run has: there is no other. -/
lemma outcomeAt?_eq {runs : List (String × LanguageRun)} {i : Nat} {o : Outcome}
    (hex : ∃ r ∈ runs, (i, o) ∈ r.2.outcomes)
    (hall : ∀ r ∈ runs, ∀ o', (i, o') ∈ r.2.outcomes → o' = o) : outcomeAt? runs i = some o := by
  have hfound : ∀ r ∈ runs, ∀ o',
      ((r.2.outcomes.find? fun x => x.1 == i).map Prod.snd) = some o' → o' = o := by
    intro r hr o' h
    obtain ⟨⟨j, o''⟩, hf, rfl⟩ := Option.map_eq_some_iff.1 h
    obtain rfl : j = i := by simpa using List.find?_some hf
    exact hall r hr _ (List.mem_of_find?_eq_some hf)
  obtain ⟨r, hr, hmem⟩ := hex
  cases h : outcomeAt? runs i with
  | none =>
    have hnone := List.findSome?_eq_none_iff.1 h r hr
    rw [Option.map_eq_none_iff, List.find?_eq_none] at hnone
    exact absurd (hnone _ hmem) (by simp)
  | some o' =>
    obtain ⟨r', hr', ho'⟩ := List.exists_of_findSome?_eq_some h
    rw [hfound r' hr' o' ho']

lemma runExamples_getElem? {xs : List Example} {k : Nat} {e : Example} (h : xs[k]? = some e) :
    (runExamples is settings xs).outcomes[k]? =
      some ((outcomeAt? (runsOf is settings xs) k).getD (.lost e)) := by
  have hk : (numbered xs)[k]? = some (k, e) := by simp [numbered, h]
  simp [runExamples, runsOf, hk]

/-- A number has outcomes in one run only, that of the language of its example. -/
lemma eq_of_mem_outcomes {xs : List Example} {l l' : String} {r r' : LanguageRun} {i : Nat}
    {o o' : Outcome} (h : (l, r) ∈ runsOf is settings xs) (h' : (l', r') ∈ runsOf is settings xs)
    (ho : (i, o) ∈ r.outcomes) (ho' : (i, o') ∈ r'.outcomes) : r = r' := by
  have hnumber : ∀ {l : String} {r : LanguageRun} {o : Outcome},
      (l, r) ∈ runsOf is settings xs → (i, o) ∈ r.outcomes →
      ∃ e, xs[i]? = some e ∧ e.language = l := by
    intro l r o h ho
    obtain ⟨_, rfl, -⟩ := exists_runFrom_of_mem h
    obtain ⟨e, he⟩ := exists_of_mem_outcomes ho
    obtain ⟨hmem, hlang⟩ := mem_ofLanguage.1 he
    exact ⟨e, mem_numbered.1 hmem, hlang⟩
  obtain ⟨e, he, rfl⟩ := hnumber h ho
  obtain ⟨e', he', rfl⟩ := hnumber h' ho'
  obtain rfl : e = e' := Option.some.inj (he.symm.trans he')
  have hnodup : ((runsOf is settings xs).map Prod.fst).Nodup :=
    runsOf_map_fst is settings xs ▸ languagesOf_nodup xs
  exact (Prod.mk.inj (List.inj_on_of_nodup_map hnodup h h' rfl)).2

/-- The entries of a language are found in the outcomes of the file. -/
theorem Ledger.getElem?_outcomes {xs : List Example} {l : String} {es : List Entry}
    (hl : Ledger is settings .fresh stopped (ofLanguage l (numbered xs)) es m')
    (h : (l, runFrom is settings l .fresh stopped (ofLanguage l (numbered xs))) ∈
      runsOf is settings xs) {x : Entry} (hx : x ∈ es) :
    (runExamples is settings xs).outcomes[x.number]? = some x.outcome := by
  obtain ⟨-, houtcomes, -⟩ := hl.runFrom_eq l
  have hsubject : xs[x.number]? = some x.subject := by
    have hnum : x.numbered ∈ ofLanguage l (numbered xs) :=
      hl.numbered_eq ▸ List.mem_map_of_mem hx
    exact mem_numbered.1 (mem_ofLanguage.1 hnum).1
  have hresult : (x.number, x.outcome) ∈
      (runFrom is settings l .fresh stopped (ofLanguage l (numbered xs))).outcomes := by
    rw [houtcomes]
    exact List.mem_map_of_mem (f := Entry.result) hx
  rw [runExamples_getElem? hsubject, outcomeAt?_eq ⟨_, h, hresult⟩, Option.getD_some]
  rintro ⟨l', r'⟩ hr' o' ho'
  obtain rfl := eq_of_mem_outcomes h hr' hresult ho'
  rw [houtcomes] at ho'
  obtain ⟨y, hy, hye⟩ := List.mem_map.1 ho'
  have hkeys : (es.map Entry.number).Nodup := by
    have := ofLanguage_nodup l xs
    rwa [← hl.numbered_eq, List.map_map] at this
  obtain ⟨hnumber, rfl⟩ := Prod.mk.inj hye
  rw [List.inj_on_of_nodup_map hkeys hy hx hnumber]

end Exemplar.Execution
