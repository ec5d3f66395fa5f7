import Exemplar.Proofs.Execution.Isolation

/-!
# The account of a language

What the run of a file says about one language is an account: one entry for each of its examples,
in their order, whose outcomes are those of the file and whose exchanges, one behind the other and
with the end behind a session that was opened, are all that was exchanged with its interpreter.
-/
namespace Exemplar.Execution
open Session Expected

/-- What was exchanged with the interpreter of a language. -/
def FileRun.callsOf (r : FileRun) (language : String) : List Exchange :=
  ((r.exchanges.find? fun c => c.1 == language).map Prod.snd).getD []

/-- A session that was opened is closed, once and at the end. -/
def ending (calls : List Exchange) : List Exchange :=
  if .opened none ∈ calls then [.closed] else []

variable {σ : Type}

/-- The entries of a language in the run of a file. -/
structure Account (is : Interpreters σ) (settings : Settings) (xs : List Example)
    (language : String) (es : List Entry) : Prop where
  ledger : ∃ m, Ledger is settings .fresh false (ofLanguage language (numbered xs)) es m
  outcomes : (runExamples is settings xs).outcomes.filter (fun o => o.subject.language == language)
    = es.map Entry.outcome
  calls : (runExamples is settings xs).callsOf language =
    es.flatMap Entry.exchanges ++ ending (es.flatMap Entry.exchanges)
  closed_not_mem : ∀ x ∈ es, .closed ∉ x.exchanges

variable {is : Interpreters σ} {settings : Settings} {xs : List Example} {language : String}

lemma Turn.closed_not_mem {m : Memory σ} {e : Example} {s : Step σ}
    (h : Turn is settings m e s) : .closed ∉ s.exchanges := by
  cases h with
  | skipped | broken | unready | refused => simp
  | sent _ _ _ hs | lost _ _ _ hs => cases hs <;> simp

/-- A session is there if it was before or has been opened. -/
lemma Turn.session_isSome {m : Memory σ} {e : Example} {s : Step σ}
    (h : Turn is settings m e s) :
    s.memory.session.isSome = true ↔ m.session.isSome = true ∨ .opened none ∈ s.exchanges := by
  cases h with
  | skipped | broken | unready => simp
  | refused _ _ _ hn => simp [hn]
  | sent _ _ _ hs | lost _ _ _ hs => cases hs with
    | «open» hm => simp [hm]
    | new => simp

namespace Ledger
variable {m m' : Memory σ} {stopped : Bool} {examples : List (Nat × Example)} {es : List Entry}

lemma closed_not_mem (h : Ledger is settings m stopped examples es m') :
    ∀ x ∈ es, .closed ∉ x.exchanges := by
  induction h with
  | done => simp
  | unreached _ ih => simpa using ih
  | step hs _ ih => exact List.forall_mem_cons.2 ⟨(turn_of_step hs).closed_not_mem, ih⟩

lemma session_isSome (h : Ledger is settings m stopped examples es m') :
    m'.session.isSome = true ↔
      m.session.isSome = true ∨ .opened none ∈ es.flatMap Entry.exchanges := by
  induction h with
  | done => simp
  | unreached _ ih => simpa using ih
  | step hs _ ih =>
    rw [ih, (turn_of_step hs).session_isSome, List.flatMap_cons, List.mem_append, or_assoc]

/-- A run from nothing closes the session that it has opened. -/
lemma closed_eq (h : Ledger is settings .fresh stopped examples es m') :
    closed m' = ending (es.flatMap Entry.exchanges) := by
  have hsession := h.session_isSome
  have hfresh : (Memory.fresh : Memory σ).session.isSome = false := rfl
  rw [hfresh] at hsession
  unfold closed ending
  simp [hsession]

end Ledger

/-- What the run of a file tells about a numbered example. -/
def outcomeOf (is : Interpreters σ) (settings : Settings) (xs : List Example)
    (x : Nat × Example) : Outcome := (outcomeAt? (runsOf is settings xs) x.1).getD (.lost x.2)

lemma outcomes_eq_map :
    (runExamples is settings xs).outcomes = (numbered xs).map (outcomeOf is settings xs) := rfl

lemma subject_outcomeOf {x : Nat × Example} (hx : x ∈ numbered xs) :
    (outcomeOf is settings xs x).subject = x.2 := by
  have hsubjects := (possible_runExamples is settings xs).complete.subjects
  rw [outcomes_eq_map, List.map_map] at hsubjects
  have hpairs : (numbered xs).map (Outcome.subject ∘ outcomeOf is settings xs) =
      (numbered xs).map Prod.snd := hsubjects.trans (numbered_map_snd xs).symm
  exact List.map_inj_left.1 hpairs x hx

/-- The outcomes of a language in a part of a file are those of its examples there. -/
lemma filter_map_outcomeOf {part : List (Nat × Example)} (hpart : part ⊆ numbered xs) :
    (part.map (outcomeOf is settings xs)).filter (fun o => o.subject.language == language) =
      (ofLanguage language part).map (outcomeOf is settings xs) := by
  rw [List.filter_map]
  refine congrArg (List.map _) (List.filter_congr fun x hx => ?_)
  rw [Function.comp_apply, subject_outcomeOf (hpart hx)]

lemma callsOf_eq {r : LanguageRun} (h : (language, r) ∈ runsOf is settings xs) :
    (runExamples is settings xs).callsOf language = r.exchanges := by
  let all := (runExamples is settings xs).exchanges
  have hmem : (language, r.exchanges) ∈ all :=
    List.mem_map_of_mem (f := fun r => (r.1, r.2.exchanges)) h
  have hkeys : (all.map Prod.fst).Nodup := by
    have hlanguages : all.map Prod.fst = languagesOf xs := by
      rw [← runsOf_map_fst is settings xs]
      exact List.map_map
    exact hlanguages ▸ languagesOf_nodup xs
  rw [FileRun.callsOf]
  cases hfound : all.find? fun c => c.1 == language with
  | none => exact absurd (List.find?_eq_none.1 hfound _ hmem) (by simp)
  | some c =>
    have hkey : c.1 = language := by simpa using List.find?_some hfound
    obtain rfl := List.inj_on_of_nodup_map hkeys (List.mem_of_find?_eq_some hfound) hmem hkey
    rfl

lemma ofLanguage_eq_nil (h : ¬ ∃ e ∈ xs, e.language = language) :
    ofLanguage language (numbered xs) = [] := by
  refine List.eq_nil_iff_forall_not_mem.2 fun x hx => h ?_
  obtain ⟨hnumbered, hlanguage⟩ := mem_ofLanguage.1 hx
  exact ⟨_, List.mem_of_getElem? (mem_numbered.1 hnumbered), hlanguage⟩

lemma callsOf_eq_nil (h : ¬ ∃ e ∈ xs, e.language = language) :
    (runExamples is settings xs).callsOf language = [] := by
  have hnone : ((runExamples is settings xs).exchanges.find? fun c => c.1 == language) = none := by
    refine List.find?_eq_none.2 fun c hc hkey => h ?_
    obtain ⟨r, hr, rfl⟩ := List.mem_map.1 hc
    rw [← mem_languagesOf, ← runsOf_map_fst is settings xs]
    exact List.mem_map.2 ⟨r, hr, by simpa using hkey⟩
  rw [FileRun.callsOf, hnone]
  rfl

namespace Ledger
variable {m : Memory σ} {es : List Entry}
  (hl : Ledger is settings .fresh false (ofLanguage language (numbered xs)) es m)
  (hrun : (∃ e ∈ xs, e.language = language) →
    (language, runFrom is settings language .fresh false (ofLanguage language (numbered xs))) ∈
      runsOf is settings xs)
include hl

lemma mem_numbered {x : Entry} (hx : x ∈ es) :
    x.numbered ∈ numbered xs ∧ x.subject.language = language := by
  have hnumbered : x.numbered ∈ ofLanguage language (numbered xs) :=
    hl.numbered_eq ▸ List.mem_map_of_mem hx
  exact mem_ofLanguage.1 hnumbered

include hrun

lemma outcomeOf_numbered {x : Entry} (hx : x ∈ es) :
    outcomeOf is settings xs x.numbered = x.outcome := by
  obtain ⟨hnumbered, hlanguage⟩ := hl.mem_numbered hx
  have hsubject : xs[x.number]? = some x.subject := Execution.mem_numbered.1 hnumbered
  have hin : ∃ e ∈ xs, e.language = language := ⟨_, List.mem_of_getElem? hsubject, hlanguage⟩
  have houtcome := hl.getElem?_outcomes (hrun hin) hx
  rw [runExamples_getElem? hsubject] at houtcome
  exact Option.some.inj houtcome

/-- The ledger of a language that is run from the beginning is its account. -/
theorem account : Account is settings xs language es where
  ledger := ⟨m, hl⟩
  outcomes := by
    rw [outcomes_eq_map, filter_map_outcomeOf (List.Subset.refl _), ← hl.numbered_eq,
      List.map_map]
    exact List.map_congr_left fun x hx => hl.outcomeOf_numbered hrun hx
  calls := by
    rw [← hl.closed_eq]
    by_cases hin : ∃ e ∈ xs, e.language = language
    · rw [callsOf_eq (hrun hin), (hl.runFrom_eq language).2.2]
    · -- a language without examples has nothing to tell
      obtain rfl : es = [] :=
        List.map_eq_nil_iff.1 (hl.numbered_eq.trans (ofLanguage_eq_nil hin))
      rw [callsOf_eq_nil hin, hl.closed_eq]
      rfl
  closed_not_mem := hl.closed_not_mem

end Ledger

/-- Unless failures stop the run, every language that does not panic has an account. -/
theorem CalmIn.exists_account (hf : settings.failFast = false)
    (h : CalmIn is settings language xs) : ∃ es, Account is settings xs language es := by
  by_cases hin : ∃ e ∈ xs, e.language = language
  · obtain ⟨es, m, hl⟩ := h.exists_ledger hf hin
    exact ⟨es, hl.account fun hin => mem_runsOf hf hin⟩
  · have hl : Ledger is settings .fresh false (ofLanguage language (numbered xs)) [] .fresh :=
      ofLanguage_eq_nil hin ▸ .done
    exact ⟨[], hl.account fun hin => mem_runsOf hf hin⟩

end Exemplar.Execution
