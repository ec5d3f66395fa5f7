import Exemplar.Proofs.Execution.Beside

/-!
# Isolation of languages and of the past

A ledger reads the examples of its language only, and from the first to the last. So the first
examples of a language have the same outcomes whatever numbers they have and whatever follows
them, and the outcome of an example is the last one of a run of its own language up to it, also
when languages run beside each other.
-/
namespace Exemplar.Execution
open Session Expected

/-- The examples of a language among the first of a file. -/
def ofLanguageBefore (language : String) (n : Nat) (xs : List Example) : List Example :=
  (xs.take n).filter fun e => e.language == language

variable {σ : Type} {is : Interpreters σ} {settings : Settings} {m m' : Memory σ}
  {stopped : Bool} {examples : List (Nat × Example)} {es : List Entry}

/-- The first examples of a ledger have one of their own with the same outcomes, also under
other numbers. -/
theorem Ledger.of_prefix (h : Ledger is settings m stopped examples es m')
    {first : List (Nat × Example)} (hp : first.map Prod.snd <+: examples.map Prod.snd) :
    ∃ fs n, Ledger is settings m stopped first fs n ∧
      fs.map Entry.outcome <+: es.map Entry.outcome := by
  induction h generalizing first with
  | @done m stopped =>
    obtain rfl : first = [] := by simpa using hp
    exact ⟨[], m, .done, List.nil_prefix⟩
  | @unreached m m' i e rest es _ ih =>
    cases first with
    | nil => exact ⟨[], m, .done, List.nil_prefix⟩
    | cons x first =>
      obtain ⟨j, e'⟩ := x
      obtain ⟨he, hrest⟩ := List.cons_prefix_cons.1 hp
      obtain rfl : e' = e := he
      obtain ⟨fs, n, hl, ho⟩ := ih hrest
      exact ⟨_, n, hl.unreached, List.cons_prefix_cons.2 ⟨rfl, ho⟩⟩
  | @step m m' i e rest es o exchanges next hs _ ih =>
    cases first with
    | nil => exact ⟨[], m, .done, List.nil_prefix⟩
    | cons x first =>
      obtain ⟨j, e'⟩ := x
      obtain ⟨he, hrest⟩ := List.cons_prefix_cons.1 hp
      obtain rfl : e' = e := he
      obtain ⟨fs, n, hl, ho⟩ := ih hrest
      exact ⟨_, n, .step hs hl, List.cons_prefix_cons.2 ⟨rfl, ho⟩⟩

lemma ofLanguage_map_snd (language : String) (examples : List (Nat × Example)) :
    (ofLanguage language examples).map Prod.snd =
      (examples.map Prod.snd).filter fun e => e.language == language := by
  rw [List.filter_map]
  rfl

lemma ofLanguageBefore_prefix (language : String) (n : Nat) (xs : List Example) :
    ofLanguageBefore language n xs <+: (ofLanguage language (numbered xs)).map Prod.snd := by
  rw [ofLanguage_map_snd, numbered_map_snd]
  exact (List.take_prefix n xs).filter _

lemma ofLanguageBefore_succ {xs : List Example} {k : Nat} {e : Example} (h : xs[k]? = some e) :
    ofLanguageBefore e.language (k + 1) xs = ofLanguageBefore e.language k xs ++ [e] := by
  simp [ofLanguageBefore, List.take_add_one, h]

lemma ofLanguageBefore_idem (language : String) (n k : Nat) (xs : List Example) :
    ofLanguageBefore language n (ofLanguageBefore language k xs) =
      (ofLanguageBefore language k xs).take n := by
  refine List.filter_eq_self.2 fun e he => ?_
  exact (List.mem_filter.1 (List.mem_of_mem_take he)).2

/-- The examples of one language are a file of this language only. -/
lemma ofLanguage_ofLanguageBefore (language : String) (k : Nat) (xs : List Example) :
    (ofLanguage language (numbered (ofLanguageBefore language k xs))).map Prod.snd =
      ofLanguageBefore language k xs := by
  rw [ofLanguage_map_snd, numbered_map_snd, List.filter_eq_self]
  exact fun e he => (List.mem_filter.1 he).2

/-- Among the examples of its language an example stands behind those that stand before it. -/
lemma ofLanguage_getElem? {xs : List Example} {k : Nat} {e : Example} (h : xs[k]? = some e) :
    (ofLanguage e.language (numbered xs))[(ofLanguageBefore e.language k xs).length]? =
      some (k, e) := by
  have hk : k < xs.length := (List.getElem?_eq_some_iff.1 h).1
  have hnumbered : (numbered xs)[k]? = some (k, e) := by simp [numbered, h]
  have hsplit : numbered xs =
      (numbered xs).take k ++ (k, e) :: (numbered xs).drop (k + 1) := by
    obtain ⟨hlt, hget⟩ := List.getElem?_eq_some_iff.1 hnumbered
    rw [← hget, List.getElem_cons_drop, List.take_append_drop]
  have hbefore : ofLanguageBefore e.language k xs =
      (ofLanguage e.language ((numbered xs).take k)).map Prod.snd := by
    rw [ofLanguage_map_snd, List.map_take, numbered_map_snd, ofLanguageBefore]
  have hown : ofLanguage e.language (numbered xs) =
      ofLanguage e.language ((numbered xs).take k) ++
        (k, e) :: ofLanguage e.language ((numbered xs).drop (k + 1)) := by
    conv_lhs => rw [hsplit]
    simp [ofLanguage]
  rw [hown, hbefore, List.length_map, List.getElem?_append_right le_rfl]
  simp

/-- Unless the run can stop, every language is run from the beginning. -/
lemma mem_runsOf (hf : settings.failFast = false) {xs : List Example} {l : String}
    (h : ∃ e ∈ xs, e.language = l) :
    (l, runFrom is settings l .fresh false (ofLanguage l (numbered xs))) ∈
      runsOf is settings xs := by
  have hl : l ∈ (runsOf is settings xs).map Prod.fst := by
    rw [runsOf_map_fst]
    exact mem_languagesOf.2 h
  obtain ⟨⟨l', r⟩, hr, rfl⟩ := List.mem_map.1 hl
  obtain ⟨stopped, rfl, hs⟩ := exists_runFrom_of_mem hr
  obtain rfl := hs hf rfl
  exact hr

/-- The outcome of an example is that of the entry at its place. -/
lemma Ledger.getElem?_outcomes_eq (hf : settings.failFast = false) {xs : List Example} {k : Nat}
    {e : Example} (hk : xs[k]? = some e)
    (hl : Ledger is settings .fresh false (ofLanguage e.language (numbered xs)) es m') :
    (runExamples is settings xs).outcomes[k]? =
      (es.map Entry.outcome)[(ofLanguageBefore e.language k xs).length]? := by
  have hplace := ofLanguage_getElem? hk
  rw [← hl.numbered_eq, List.getElem?_map] at hplace
  obtain ⟨x, hx, hnumber⟩ := Option.map_eq_some_iff.1 hplace
  obtain ⟨rfl, rfl⟩ := Prod.mk.inj hnumber
  rw [List.getElem?_map, hx]
  exact hl.getElem?_outcomes (mem_runsOf hf ⟨_, List.mem_of_getElem? hk, rfl⟩)
    (List.mem_of_getElem? hx)

/-- A run in which no session of a language panics. -/
def CalmIn (is : Interpreters σ) (settings : Settings) (language : String) (xs : List Example) :
    Prop :=
  ∀ r ∈ (runExamples is settings xs).exchanges, r.1 = language → Calm r.2

instance (is : Interpreters σ) (settings : Settings) (language : String) (xs : List Example) :
    Decidable (CalmIn is settings language xs) :=
  inferInstanceAs (Decidable (∀ r ∈ (runExamples is settings xs).exchanges, r.1 = language →
    Calm r.2))

lemma CalmIn.exists_ledger (hf : settings.failFast = false) {xs : List Example} {l : String}
    (h : CalmIn is settings l xs) (hl : ∃ e ∈ xs, e.language = l) :
    ∃ es m', Ledger is settings .fresh false (ofLanguage l (numbered xs)) es m' := by
  have hr : (l, runFrom is settings l .fresh false (ofLanguage l (numbered xs))) ∈
      runsOf is settings xs := mem_runsOf hf hl
  have hcalm := h _ (List.mem_map_of_mem (f := fun r => (r.1, r.2.exchanges)) hr) rfl
  exact Execution.exists_ledger (panicked_eq_false_of_calm hcalm)

/-- An example has an outcome, and a run of its language up to it ends with the same. -/
theorem exists_outcome_eq_last (hf : settings.failFast = false) {xs : List Example} {k : Nat}
    {e : Example} (hk : xs[k]? = some e)
    (hl : Ledger is settings .fresh false (ofLanguage e.language (numbered xs)) es m') :
    ∃ o, (runExamples is settings xs).outcomes[k]? = some o ∧
      (runExamples is settings (ofLanguageBefore e.language (k + 1) xs)).outcomes.getLast? =
        some o := by
  let before := ofLanguageBefore e.language k xs
  let own := ofLanguageBefore e.language (k + 1) xs
  have hsucc : own = before ++ [e] := ofLanguageBefore_succ hk
  have hlength : own.length = before.length + 1 := by simp [hsucc]
  have hlast : own[before.length]? = some e := by simp [hsucc]
  -- the run of its language up to the example has a ledger that the long one goes on from
  have hown := ofLanguage_ofLanguageBefore e.language (k + 1) xs
  have hbefore : ((ofLanguage e.language (numbered own)).map Prod.snd) <+:
      (ofLanguage e.language (numbered xs)).map Prod.snd := by
    rw [hown]
    exact ofLanguageBefore_prefix e.language (k + 1) xs
  obtain ⟨fs, n, hl', more, hmore⟩ := hl.of_prefix hbefore
  have hlt : before.length < (fs.map Entry.outcome).length := by
    have hentries : fs.length = own.length := by
      rw [← List.length_map (f := Entry.numbered), hl'.numbered_eq, ← List.length_map, hown]
    rw [List.length_map]
    omega
  refine ⟨(fs.map Entry.outcome)[before.length], ?_, ?_⟩
  · rw [hl.getElem?_outcomes_eq hf hk, ← hmore, List.getElem?_append_left hlt,
      List.getElem?_eq_getElem hlt]
  · have hshort := hl'.getElem?_outcomes_eq hf hlast
    have hle : before.length ≤ own.length := by omega
    rw [ofLanguageBefore_idem, List.length_take, min_eq_left hle] at hshort
    have hrun : (runExamples is settings own).outcomes.length = before.length + 1 := by
      simp [runExamples, numbered, hlength]
    rw [List.getLast?_eq_getElem?, hrun, Nat.add_sub_cancel, hshort,
      List.getElem?_eq_getElem hlt]

/-- The outcomes of a language that does not panic are the same beside others and in its turn. -/
theorem Ledger.getElem?_outcomes_beside (hf : settings.failFast = false) {xs : List Example}
    {k : Nat} {e : Example} {c : Crew σ} (hk : xs[k]? = some e) (hc : c.EndOf is settings xs)
    (ht : (e.language, .ended m' es) ∈ c.stages)
    (hl : Ledger is settings .fresh false (ofLanguage e.language (numbered xs)) es m') :
    (c.outcomes xs)[k]? = (runExamples is settings xs).outcomes[k]? := by
  have hnumbered : (k, e) ∈ es.map Entry.numbered := by
    rw [hl.numbered_eq]
    exact mem_ofLanguage.2 ⟨mem_numbered.2 hk, rfl⟩
  obtain ⟨x, hx, hxk⟩ := List.mem_map.1 hnumbered
  obtain ⟨rfl, rfl⟩ := Prod.mk.inj hxk
  have hin : ∃ e ∈ xs, e.language = x.subject.language := ⟨_, List.mem_of_getElem? hk, rfl⟩
  rw [hc.getElem?_outcomes ht hx, hl.getElem?_outcomes (mem_runsOf hf hin) hx]

/-- Unless failures stop the run, the outcome of an example whose language does not panic is the
last outcome of a run of the examples of its language up to it. It is the same in every file in
which the language has these examples up to it: neither other languages nor later examples nor
the order in which languages are mixed have a part in it. And it is the same however the languages
of such a file alternate that run beside each other. -/
theorem runExamples_isolated (is : Interpreters σ) (settings : Settings)
    (hf : settings.failFast = false) {xs : List Example} {k : Nat} {e : Example}
    (hk : xs[k]? = some e) (hcalm : CalmIn is settings e.language xs) :
    ∃ o, (runExamples is settings xs).outcomes[k]? = some o ∧
      (runExamples is settings (ofLanguageBefore e.language (k + 1) xs)).outcomes.getLast? =
        some o ∧
      ∀ ys j, ys[j]? = some e →
        ofLanguageBefore e.language (j + 1) ys = ofLanguageBefore e.language (k + 1) xs →
        (CalmIn is settings e.language ys → (runExamples is settings ys).outcomes[j]? = some o) ∧
        ∀ c : Crew σ, c.EndOf is settings ys →
          (∀ a, (e.language, a) ∈ c.stages → a.isLost = false) →
          (c.outcomes ys)[j]? = some o := by
  obtain ⟨es, m', hl⟩ := hcalm.exists_ledger hf ⟨e, List.mem_of_getElem? hk, rfl⟩
  obtain ⟨o, ho, hlast⟩ := exists_outcome_eq_last hf hk hl
  refine ⟨o, ho, hlast, fun ys j hj hsame => ?_⟩
  have hin : ∃ e' ∈ ys, e'.language = e.language := ⟨e, List.mem_of_getElem? hj, rfl⟩
  have htold : ∀ {fs : List Entry} {n : Memory σ},
      Ledger is settings .fresh false (ofLanguage e.language (numbered ys)) fs n →
      (runExamples is settings ys).outcomes[j]? = some o := by
    intro fs n hl'
    obtain ⟨o', ho', hlast'⟩ := exists_outcome_eq_last hf hj hl'
    rw [hsame, hlast] at hlast'
    rw [ho', hlast']
  constructor
  · intro hcalm'
    obtain ⟨fs, n, hl'⟩ := hcalm'.exists_ledger hf hin
    exact htold hl'
  · intro c hc hlost
    obtain ⟨fs, n, ht, hl'⟩ := hc.exists_ledger hf hin hlost
    rw [hl'.getElem?_outcomes_beside hf hj hc ht, htold hl']

/-- The example behind a time limit is errored in both files, although the other language, which
is mixed in otherwise, goes on. -/
theorem runExamples_isolated_broken :
    ∃ (is : Interpreters Scripted) (settings : Settings) (xs ys : List Example) (e : Example)
      (o : Outcome), settings.failFast = false ∧ xs[2]? = some e ∧ ys[3]? = some e ∧
      xs.map Example.language = ["python", "shell", "python", "shell"] ∧
      ys.map Example.language = ["shell", "shell", "python", "python"] ∧
      CalmIn is settings e.language xs ∧ CalmIn is settings e.language ys ∧
      (runExamples is settings xs).outcomes[2]? = some o ∧
      (runExamples is settings (ofLanguageBefore e.language 3 xs)).outcomes.getLast? = some o ∧
      (runExamples is settings ys).outcomes[3]? = some o ∧
      (∃ c : Crew Scripted, c.EndOf is settings ys ∧ (c.outcomes ys)[3]? = some o) ∧
      o.state = .errored := by
  let is := Scripted.interpreters
    [("python", ⟨.opens, [("spin".toList, [.response ⟨"1".toList, .timedOut⟩])]⟩)]
  let settings : Settings := ⟨⟨5⟩, false, { Options.none with pass := true }⟩
  let spin : Example := ⟨"python", ["spin".toList], [], 1, [], Options.none⟩
  let go : Example := ⟨"python", ["go".toList], [], 3, [], Options.none⟩
  let ls : Example := ⟨"shell", ["ls".toList], [], 2, [], Options.none⟩
  have hxs : CalmIn is settings "python" [spin, ls, go, ls] := by decide +kernel
  have hys : CalmIn is settings "python" [ls, ls, spin, go] := by decide +kernel
  have hgo : [spin, ls, go, ls][2]? = some go := rfl
  obtain ⟨o, ho, hlast, hsame⟩ := runExamples_isolated is settings rfl hgo hxs
  obtain ⟨hbehind, hbeside⟩ := hsame [ls, ls, spin, go] 3 rfl rfl
  have hcourse : ∃ c : Crew Scripted, c.EndOf is settings [ls, ls, spin, go] ∧
      (c.outcomes [ls, ls, spin, go])[3]? = some o := by
    obtain ⟨c, hc, -, hexchanges, hkept⟩ := exists_endOf_runExamples is settings [ls, ls, spin, go]
    refine ⟨c, hc, hbeside c hc fun a ha => hkept _ ha (hys ("python", a.calls) ?_ rfl)⟩
    exact hexchanges ▸ List.mem_map_of_mem (f := fun t => (t.1, t.2.calls)) ha
  refine ⟨is, settings, [spin, ls, go, ls], [ls, ls, spin, go], go, o, rfl, rfl, rfl, rfl, rfl,
    hxs, hys, ho, hlast, hbehind hys, hcourse, ?_⟩
  have hstate : (runExamples is settings [spin, ls, go, ls]).outcomes[2]?.map Outcome.state =
      some .errored := by decide +kernel
  rw [ho] at hstate
  exact Option.some.inj hstate

end Exemplar.Execution
