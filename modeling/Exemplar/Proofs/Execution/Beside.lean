import Exemplar.Proofs.Execution.Alternation

/-!
# Ledgers of languages beside each other

Another language can stop a run between two examples and nowhere else. So what a language has done
is at all times the ledger of a run of its own, with nothing behind it but examples that were not
reached; and unless failures stop the run, it is the ledger of all its examples.
-/
namespace Exemplar.Execution
open Session

variable {σ : Type} {is : Interpreters σ} {settings : Settings}

/-- The entries of a language in a run that can be stopped: those of a run of its own, and behind
them examples that were not reached. -/
structure CutShort (is : Interpreters σ) (settings : Settings) (examples : List (Nat × Example))
    (m : Memory σ) (es own : List Entry) (rest : List (Nat × Example)) : Prop where
  entries : es = own ++ rest.map Entry.unreached
  covers : own.map Entry.numbered ++ rest = examples
  ledger : Ledger is settings .fresh false (own.map Entry.numbered) own m
  failFast : rest ≠ [] → settings.failFast = true

lemma flatMap_unreached (examples : List (Nat × Example)) :
    (examples.map Entry.unreached).flatMap Entry.exchanges = [] := by
  rw [List.flatMap_map]
  exact List.flatMap_eq_nil_iff.2 fun _ _ => rfl

namespace CutShort
variable {examples : List (Nat × Example)} {m : Memory σ} {es own : List Entry}
  {rest : List (Nat × Example)}

lemma numbered_eq (h : CutShort is settings examples m es own rest) :
    es.map Entry.numbered = examples := by
  rw [h.entries, List.map_append, ← h.covers, List.map_map]
  exact congrArg (own.map Entry.numbered ++ ·) (List.map_id rest)

lemma flatMap_exchanges (h : CutShort is settings examples m es own rest) :
    es.flatMap Entry.exchanges = own.flatMap Entry.exchanges := by
  rw [h.entries, List.flatMap_append, flatMap_unreached, List.append_nil]

/-- Unless failures stop the run, nothing is cut off. -/
lemma full (h : CutShort is settings examples m es own rest) (hf : settings.failFast = false) :
    Ledger is settings .fresh false examples es m := by
  obtain rfl : rest = [] := by_contra fun hne => absurd (h.failFast hne) (by simp [hf])
  obtain rfl : es = own := by simpa using h.entries
  obtain rfl : es.map Entry.numbered = examples := by simpa using h.covers
  exact h.ledger

end CutShort

/-- The ledger of all examples is cut off nowhere. -/
lemma Ledger.cutShort {examples : List (Nat × Example)} {m : Memory σ} {es : List Entry}
    (h : Ledger is settings .fresh false examples es m) :
    CutShort is settings examples m es es [] where
  entries := by simp
  covers := by simpa using h.numbered_eq
  ledger := by rwa [h.numbered_eq]
  failFast := by simp

/-- A run without a failure that stops it goes on with the next example. -/
lemma Ledger.snoc {m m' : Memory σ} {stopped : Bool} {examples : List (Nat × Example)}
    {es : List Entry} {x : Nat × Example} {o : Outcome}
    (h : Ledger is settings m stopped examples es m') (hs : stopped = false)
    (hall : ∀ y ∈ es, stops settings y.outcome = false)
    (ho : (Execution.step is settings m' x.2).outcome = some o) :
    Ledger is settings m stopped (examples ++ [x])
      (es ++ [⟨x.1, x.2, o, (Execution.step is settings m' x.2).exchanges⟩])
      (Execution.step is settings m' x.2).memory := by
  induction h with
  | @done m stopped =>
    subst hs
    exact .step (by rw [← ho]) .done
  | unreached => cases hs
  | step hstep _ ih =>
    obtain ⟨hhead, htail⟩ := List.forall_mem_cons.1 hall
    exact .step hstep (ih hhead htail ho)

namespace Stage
variable {xs : List (Nat × Example)} {a b : Stage σ} {stopped stopped' : Bool}

/-- What a language has done so far is cut short at most, and only behind the mark. -/
def Keeps (is : Interpreters σ) (settings : Settings) (xs : List (Nat × Example))
    (stopped : Bool) : Stage σ → Prop
  | looking todo m done => ∃ before own rest, xs = before ++ todo ∧
      CutShort is settings before m done own rest ∧
      (stopped = false → rest = [] ∧ ∀ x ∈ own, stops settings x.outcome = false)
  | executing x todo m done => ∃ before, xs = before ++ x :: todo ∧
      Ledger is settings .fresh false before done m ∧
      ∀ y ∈ done, stops settings y.outcome = false
  | ended m done => ∃ own rest, CutShort is settings xs m done own rest
  | lost _ => True

lemma Keeps.mono (h : a.Keeps is settings xs stopped) (hs : stopped = true → stopped' = true) :
    a.Keeps is settings xs stopped' := by
  cases a with
  | looking todo m done =>
    obtain ⟨before, own, rest, hxs, hcut, hrest⟩ := h
    refine ⟨before, own, rest, hxs, hcut, fun hs' => hrest ?_⟩
    cases stopped with
    | false => rfl
    | true => cases (hs rfl).symm.trans hs'
  | executing | ended | lost => exact h

lemma Goes.keeps (h : Goes is settings stopped a stopped' b)
    (hfast : stopped = true → settings.failFast = true) (ha : a.Keeps is settings xs stopped) :
    b.Keeps is settings xs stopped' := by
  cases h with
  | @pass x todo m done =>
    obtain ⟨before, own, rest, rfl, hcut, -⟩ := ha
    refine ⟨before ++ [x], own, rest ++ [x], by simp, ⟨?_, ?_, hcut.ledger, fun _ => hfast rfl⟩,
      nofun⟩
    · simp [hcut.entries]
    · simp [← hcut.covers]
  | @enter x todo m done =>
    obtain ⟨before, own, rest, rfl, hcut, hrest⟩ := ha
    obtain ⟨rfl, hown⟩ := hrest rfl
    obtain rfl : done = own := by simpa using hcut.entries
    obtain rfl : done.map Entry.numbered = before := by simpa using hcut.covers
    exact ⟨_, rfl, hcut.ledger, hown⟩
  | @execute _ x todo m done o ho =>
    obtain ⟨before, rfl, hledger, hdone⟩ := ha
    have hnext := hledger.snoc rfl hdone ho
    refine ⟨before ++ [x], _, [], by simp, hnext.cutShort, fun hs => ⟨rfl, ?_⟩⟩
    obtain ⟨-, hstops⟩ := Bool.or_eq_false_iff.1 hs
    exact List.forall_mem_append.2 ⟨hdone, by simpa using hstops⟩
  | finish =>
    obtain ⟨before, own, rest, hxs, hcut, -⟩ := ha
    rw [List.append_nil] at hxs
    exact ⟨own, rest, hxs ▸ hcut⟩
  | perish | panic => trivial

end Stage

namespace Crew
variable {examples : List Example} {c c' : Crew σ}

/-- Every language has kept its ledger, and only a run that may stop has stopped. -/
structure Kept (is : Interpreters σ) (settings : Settings) (examples : List Example)
    (c : Crew σ) : Prop where
  sound : c.Sound settings examples
  keeps : ∀ t ∈ c.stages,
    t.2.Keeps is settings (ofLanguage t.1 (numbered examples)) c.stopped

lemma kept_start (is : Interpreters σ) (settings : Settings) (examples : List Example) :
    (start examples : Crew σ).Kept is settings examples where
  sound := sound_start settings examples
  keeps := fun t ht => by
    obtain ⟨l, -, rfl⟩ := List.mem_map.1 ht
    exact ⟨[], [], [], rfl, Ledger.done.cutShort, by simp⟩

lemma Kept.step (h : c.Kept is settings examples) (hs : Step is settings c c') :
    c'.Kept is settings examples := by
  refine ⟨h.sound.step hs, ?_⟩
  have hfast : c.stopped = true → settings.failFast = true :=
    fun hstop => (h.sound.stopped hstop).1
  cases hs with
  | @goes l₁ l₂ l a b stopped stopped' hg =>
    intro t ht
    rcases List.mem_append.1 ht with ht | ht
    · exact (h.keeps t (by simp [ht])).mono hg.stopped_mono
    rcases List.mem_cons.1 ht with rfl | ht
    · exact hg.keeps hfast (h.keeps (l, a) (by simp))
    · exact (h.keeps t (by simp [ht])).mono hg.stopped_mono

theorem Kept.reaches (h : c.Kept is settings examples) (hr : Reaches is settings c c') :
    c'.Kept is settings examples := by
  induction hr with
  | refl => exact h
  | step hs _ ih => exact ih (h.step hs)

namespace EndOf
variable (h : c.EndOf is settings examples) {language : String} {m : Memory σ} {es : List Entry}
include h

lemma kept : c.Kept is settings examples := (kept_start is settings examples).reaches h.reaches

/-- In the end a language that does not panic has the ledger of a run of its own, cut short at
most. -/
theorem exists_cutShort (ht : (language, .ended m es) ∈ c.stages) :
    ∃ own rest, CutShort is settings (ofLanguage language (numbered examples)) m es own rest :=
  h.kept.keeps _ ht

/-- Unless failures stop the run, a language that does not panic has the ledger of all its
examples. -/
theorem exists_ledger (hf : settings.failFast = false)
    (hin : ∃ e ∈ examples, e.language = language)
    (hlost : ∀ a, (language, a) ∈ c.stages → a.isLost = false) :
    ∃ es m, (language, .ended m es) ∈ c.stages ∧
      Ledger is settings .fresh false (ofLanguage language (numbered examples)) es m := by
  have hl : language ∈ c.stages.map Prod.fst :=
    h.kept.sound.languages ▸ mem_languagesOf.2 hin
  obtain ⟨⟨l, a⟩, ht, rfl⟩ := List.mem_map.1 hl
  have hover := h.finished _ ht
  cases a with
  | looking | executing => cases hover
  | lost calls => cases hlost _ ht
  | ended m es =>
    obtain ⟨own, rest, hcut⟩ := h.exists_cutShort ht
    exact ⟨es, m, ht, hcut.full hf⟩

/-- Entries are found in the outcomes of the file. -/
theorem getElem?_outcomes (ht : (language, .ended m es) ∈ c.stages) {x : Entry} (hx : x ∈ es) :
    (c.outcomes examples)[x.number]? = some x.outcome := by
  have hresult : (x.number, x.outcome) ∈ (Stage.ended m es).results :=
    List.mem_map_of_mem (f := Entry.result) hx
  have hfound := h.kept.sound.outcomeAt?_eq ht hresult
  have hsubject := mem_numbered.1 (mem_ofLanguage.1 (h.kept.sound.mem_ofLanguage ht hresult)).1
  simp [Crew.outcomes, numbered, hsubject, hfound]

end EndOf

end Crew

end Exemplar.Execution
