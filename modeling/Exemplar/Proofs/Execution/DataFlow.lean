import Exemplar.Proofs.Execution.Absence
import Exemplar.Proofs.Execution.Clipboard
import Exemplar.Proofs.Execution.Protocol

/-!
# The flow of captured values

An example that pastes gets its values from the examples of its language before it: under each name
the one that was captured last, by an example that has passed. If all values are there, the
statements are sent with the values in them, as long as nothing else keeps the example from a
session. If a value is lacking, nothing is sent, and the other examples of the file run as they
would without this one.
-/
namespace Exemplar.Execution
open Session Expected

/-- What becomes of an example that pastes values, behind exchanges that have not broken its
session. Nothing is said of an example for which a tag is repeated only by what values read as. -/
structure Pastes {σ : Type} (is : Interpreters σ) (settings : Settings)
    (value : Text → Option Text) (before : List Exchange) (e : Example) (o : Outcome)
    (exchanges : List Exchange) : Prop where
  missing : ∀ name, firstMissing? value e = some name →
    o = .errored e none (.nothingCaptured name) ∧ exchanges = []
  repeated : firstMissing? value e = none → WritesTagTwice settings value e →
    (∃ err, o = .errored e none (.repeatedTag err)) ∧ exchanges = []
  refused : firstMissing? value e = none → ¬ RepeatsTag settings value e →
    .opened none ∉ before → ∀ err, is.start e.language = .error err →
    o = .errored e none (.session err) ∧ exchanges = [.opened (some err)]
  sent : firstMissing? value e = none → ¬ RepeatsTag settings value e →
    (.opened none ∈ before ∨ ∃ session, is.start e.language = .ok session) →
    ∃ reply, exchanges = (if .opened none ∈ before then [] else [.opened none]) ++
      [.ran (e.statements.map (substitute value)) (settings.limitOf e) reply]

variable {σ : Type} {is : Interpreters σ} {settings : Settings}

section
variable {m : Memory σ} {e : Example} {s : Step σ} (h : Turn is settings m e s)
  (hx : (settings.optionsOf e).executes = true) (hb : m.broken = none)
include h hx hb

lemma Turn.eq_of_error {t : Trouble}
    (hp : prepare m.clipboard (settings.optionsOf e) e = .error t) :
    s = ⟨some (.errored e none t), [], m⟩ := by
  cases h with
  | skipped hn => simp [hn] at hx
  | broken _ hn => simp [hn] at hb
  | unready _ _ hp' =>
    obtain rfl := Except.error.inj (hp.symm.trans hp')
    rfl
  | refused _ _ hp' | sent _ _ hp' | lost _ _ hp' => cases hp.symm.trans hp'

/-- A prepared example is sent, unless there is no session for it. -/
lemma Turn.cases_of_ok {p : Prepared}
    (hp : prepare m.clipboard (settings.optionsOf e) e = .ok p) :
    (∃ err, m.session = none ∧ is.start e.language = .error err ∧
      s.outcome = some (.errored e none (.session err)) ∧ s.exchanges = [.opened (some err)]) ∨
    ∃ session opening reply, Provides is m e.language session opening ∧
      s.exchanges = opening ++ [.ran p.statements (settings.limitOf e) reply] := by
  cases h with
  | skipped hn => simp [hn] at hx
  | broken _ hn => simp [hn] at hb
  | unready _ _ hp' => cases hp.symm.trans hp'
  | refused _ _ _ hn hs => exact .inl ⟨_, hn, hs, rfl, rfl⟩
  | sent _ _ hp' hs _ _ | lost _ _ hp' hs _ =>
    obtain rfl := Except.ok.inj (hp.symm.trans hp')
    exact .inr ⟨_, _, _, hs, rfl⟩

end

/-- An example that pastes from the clipboard. -/
lemma Turn.pastes {m next : Memory σ} {e : Example} {o : Outcome}
    {before exchanges : List Exchange} {value : Text → Option Text}
    (h : Turn is settings m e ⟨some o, exchanges, next⟩)
    (hx : (settings.optionsOf e).executes = true) (hpaste : (settings.optionsOf e).paste = true)
    (hb : m.broken = none) (hvalue : ∀ name, m.clipboard.get? name = value name)
    (hdots : m.clipboard.get? Tag.dots = none)
    (hsession : m.session.isSome = true ↔ .opened none ∈ before) :
    Pastes is settings value before e o exchanges where
  missing := by
    intro name hname
    have hs := h.eq_of_error hx hb (prepare_of_missing hvalue hdots hpaste hname)
    cases hs
    exact ⟨rfl, rfl⟩
  repeated := by
    intro hname htwice
    obtain ⟨err, hp⟩ := prepare_of_repeats hvalue hdots hpaste hname htwice.repeatsTag
    have hs := h.eq_of_error hx hb hp
    cases hs
    exact ⟨⟨err, rfl⟩, rfl⟩
  refused := by
    intro hname hrepeats hn err hstart
    obtain ⟨pattern, hp⟩ := prepare_of_ready hvalue hdots hpaste hname hrepeats
    obtain ⟨err', -, hstart', ho, hexchanges⟩ | ⟨session, opening, reply, hprovides, -⟩ :=
      h.cases_of_ok hx hb hp
    · obtain rfl := Except.error.inj (hstart.symm.trans hstart')
      exact ⟨Option.some.inj ho, hexchanges⟩
    · cases hprovides with
      | «open» hm => exact absurd (hsession.1 (by simp [hm])) hn
      | new _ hok => cases hstart.symm.trans hok
  sent := by
    intro hname hrepeats hready
    obtain ⟨pattern, hp⟩ := prepare_of_ready hvalue hdots hpaste hname hrepeats
    obtain ⟨err, hm, hstart, -, -⟩ | ⟨session, opening, reply, hprovides, hexchanges⟩ :=
      h.cases_of_ok hx hb hp
    · rcases hready with hopened | ⟨session, hok⟩
      · simp [hm] at hsession
        exact absurd hopened hsession
      · cases hstart.symm.trans hok
    · refine ⟨reply, ?_⟩
      cases hprovides with
      | «open» hm =>
        rw [if_pos (hsession.1 (by simp [hm]))]
        exact hexchanges
      | new hm _ =>
        have hn : .opened none ∉ before := fun hopened => by
          simpa [hm] using hsession.2 hopened
        rw [if_neg hn]
        exact hexchanges

/-- A session that no exchange breaks is not broken. -/
lemma Turn.broken_eq_none {m next : Memory σ} {e : Example} {o : Outcome}
    {exchanges : List Exchange} (h : Turn is settings m e ⟨some o, exchanges, next⟩)
    (hm : m.broken = none) (hx : exchanges.any Exchange.breaks = false) : next.broken = none := by
  cases h with
  | skipped | broken | unready => exact hm
  | refused => simp [Exchange.breaks] at hx
  | @sent p _ _ opening reply _ _ _ _ _ _ _ _ ha =>
    refine (ha.succeeds_iff p.statements).1 ?_
    simpa [Exchange.breaks] using (List.any_eq_false.1 hx _ (List.mem_append_right opening
      (List.mem_singleton_self _)))

lemma Ledger.broken_eq_none {m m' : Memory σ} {stopped : Bool} {examples : List (Nat × Example)}
    {es : List Entry} (h : Ledger is settings m stopped examples es m') (hm : m.broken = none)
    (hx : (es.flatMap Entry.exchanges).any Exchange.breaks = false) : m'.broken = none := by
  induction h with
  | done => exact hm
  | unreached _ ih => exact ih hm hx
  | step hs _ ih =>
    rw [List.flatMap_cons, List.any_append, Bool.or_eq_false_iff] at hx
    exact ih ((turn_of_step hs).broken_eq_none hm hx.1) hx.2

variable {before behind : List Example} {e : Example} {fs gs : List Entry} {x : Entry}
  {m n : Memory σ}

/-- What the outcomes before an example say about its language. -/
lemma Stands.filter_take (hf : settings.failFast = false)
    (hacc : Account is settings (before ++ e :: behind) e.language (fs ++ x :: gs))
    (h : Stands is settings before e behind fs x gs m n) :
    ((runExamples is settings (before ++ e :: behind)).outcomes.take before.length).filter
      (fun o => o.subject.language == e.language) = fs.map Entry.outcome := by
  have hpart : numbered before ⊆ numbered (before ++ e :: behind) := by
    rw [numbered_append_cons]
    exact List.subset_append_left _ _
  have hlength : (numbered before).length = before.length := by simp [numbered]
  have htake : (runExamples is settings (before ++ e :: behind)).outcomes.take before.length =
      (numbered before).map (outcomeOf is settings (before ++ e :: behind)) := by
    rw [outcomes_eq_map, ← List.map_take, numbered_append_cons, ← hlength, List.take_left']
    rfl
  obtain ⟨m', hfull⟩ := hacc.ledger
  rw [htake, filter_map_outcomeOf hpart, ← h.earlier.numbered_eq, List.map_map]
  exact List.map_congr_left fun y hy =>
    hfull.outcomeOf_numbered (fun hin => mem_runsOf hf hin) (List.mem_append_left _ hy)

/-- The values that an example finds are those captured in its language before it. -/
lemma Stands.pastes (hf : settings.failFast = false)
    (hacc : Account is settings (before ++ e :: behind) e.language (fs ++ x :: gs))
    (h : Stands is settings before e behind fs x gs m n)
    (hx : (settings.optionsOf e).executes = true) (hpaste : (settings.optionsOf e).paste = true)
    (hb : (fs.flatMap Entry.exchanges).any Exchange.breaks = false) :
    Pastes is settings
      (capturedIn e.language
        ((runExamples is settings (before ++ e :: behind)).outcomes.take before.length))
      (fs.flatMap Entry.exchanges) e x.outcome x.exchanges := by
  refine (turn_of_step h.step_eq).pastes hx hpaste (h.earlier.broken_eq_none rfl hb) ?_ ?_ ?_
  · intro name
    rw [h.earlier.clipboard_get? name, capturedIn, h.filter_take hf hacc]
    exact Option.or_none
  · exact (h.earlier.named (by simp [Named, Memory.fresh])).get?_dots
  · simpa [Memory.fresh] using h.earlier.session_isSome

/-- Unless failures stop the run, and if no session panics, an example that pastes is run with the
values that examples of its language before it have captured, if nothing has broken its session.
It is errored instead, and nothing is sent, if a name in its statements has no value, or else if a
tag without a value is written twice in the lines that its output is to be compared with; if there
is no session yet and none can be opened, it is errored as well. An example for which nothing is
exchanged could as well not be in the file. Values come from passed examples of the language whose
output was compared, the latest that has captured the name, and from nowhere else. -/
theorem runExamples_dataFlow (is : Interpreters σ) (settings : Settings)
    (hf : settings.failFast = false) {before behind : List Example} {e : Example}
    (hx : (settings.optionsOf e).executes = true) (hpaste : (settings.optionsOf e).paste = true)
    (hcalm : ∀ l, CalmIn is settings l (before ++ e :: behind)) :
    let outcomes := (runExamples is settings (before ++ e :: behind)).outcomes.take before.length
    ∃ fs x gs, Account is settings (before ++ e :: behind) e.language (fs ++ x :: gs) ∧
      x.numbered = (before.length, e) ∧
      ((fs.flatMap Entry.exchanges).any Exchange.breaks = false →
        Pastes is settings (capturedIn e.language outcomes) (fs.flatMap Entry.exchanges) e
          x.outcome x.exchanges) ∧
      (x.exchanges = [] → AsIfAbsent is settings before e behind) ∧
      ∀ name value, capturedIn e.language outcomes name = some value ↔
        ∃ earlier o later, outcomes = earlier ++ o :: later ∧
          o.Contributes settings e.language name value ∧
          ∀ o' ∈ later, ∀ value', ¬ o'.Contributes settings e.language name value' := by
  obtain ⟨es, hacc⟩ := (hcalm e.language).exists_account hf
  obtain ⟨fs, x, gs, m, n, rfl, hstands⟩ := hacc.exists_stands hf
  have hconsistent := (possible_runExamples is settings (before ++ e :: behind)).complete.consistent
  exact ⟨fs, x, gs, hacc, hstands.numbered_eq, hstands.pastes hf hacc hx hpaste,
    fun hnone => asIfAbsent hf hacc hstands hnone hcalm,
    fun name value => capturedIn_eq_some fun o ho => hconsistent o (List.mem_of_mem_take ho)⟩

/-- Of two values the later one is pasted, although a failed match and another language have
captured others behind it. -/
theorem runExamples_dataFlow_overwritten :
    ∃ (is : Interpreters Scripted) (settings : Settings) (before behind : List Example)
      (e : Example), settings.failFast = false ∧ (settings.optionsOf e).executes = true ∧
      (settings.optionsOf e).paste = true ∧
      (∀ l, CalmIn is settings l (before ++ e :: behind)) ∧
      e.statements = ["cat <file>".toList] ∧
      (runExamples is settings (before ++ e :: behind)).outcomes.map
          (fun o => (o.state, (o.result.bind fun r => r.captures.get? "file".toList))) =
        [(.passed, some "a.txt".toList), (.passed, some "b.txt".toList),
          (.failed, some "c.txt".toList), (.passed, some "p.txt".toList), (.passed, none)] ∧
      ∃ fs x gs reply,
        Account is settings (before ++ e :: behind) e.language (fs ++ x :: gs) ∧
        x.numbered = (4, e) ∧ .ran ["cat b.txt".toList] ⟨5⟩ reply ∈ x.exchanges := by
  let answer (statement output : String) : Text × List Answer :=
    (statement.toList, [.response ⟨output.toList, .ok⟩])
  let is := Scripted.interpreters
    [("shell", ⟨.opens, [answer "new" "a.txt", answer "again" "b.txt", answer "bad" "c.txt x"]⟩),
      ("python", ⟨.opens, [answer "name" "p.txt"]⟩)]
  let settings : Settings := ⟨⟨5⟩, false, Options.none⟩
  let before : List Example :=
    [⟨"shell", ["new".toList], ["<file>".toList], 1, [], Options.none⟩,
      ⟨"shell", ["again".toList], ["<file>".toList], 3, [], Options.none⟩,
      ⟨"shell", ["bad".toList], ["<file> <rest>y".toList], 5, [], Options.none⟩,
      ⟨"python", ["name".toList], ["<file>".toList], 7, [], Options.none⟩]
  let e : Example := ⟨"shell", ["cat <file>".toList], ["cat <file>".toList], 9, [],
    { Options.none with paste := true }⟩
  have hall : ∀ r ∈ (runExamples is settings (before ++ [e])).exchanges, Calm r.2 := by
    decide +kernel
  have hcalm : ∀ l, CalmIn is settings l (before ++ [e]) := fun _ r hr _ => hall r hr
  have hbreaks : ((runExamples is settings (before ++ [e])).callsOf "shell").any
      Exchange.breaks = false := by decide +kernel
  let value := capturedIn "shell" ((runExamples is settings (before ++ [e])).outcomes.take 4)
  have hmissing : firstMissing? value e = none := by decide +kernel
  have hrepeats : ¬ RepeatsTag settings value e := by decide +kernel
  have hstatements : e.statements.map (substitute value) = ["cat b.txt".toList] := by
    decide +kernel
  obtain ⟨fs, x, gs, hacc, hnumbered, hpastes, -, -⟩ :=
    runExamples_dataFlow is settings rfl (e := e) rfl rfl hcalm
  have hunbroken : (fs.flatMap Entry.exchanges).any Exchange.breaks = false := by
    rw [hacc.calls] at hbreaks
    simp only [List.flatMap_append, List.any_append, Bool.or_eq_false_iff] at hbreaks
    exact hbreaks.1.1
  have hpasted : Pastes is settings value (fs.flatMap Entry.exchanges) e x.outcome x.exchanges :=
    hpastes hunbroken
  obtain ⟨reply, hexchanges⟩ := hpasted.sent hmissing hrepeats (.inr ⟨_, rfl⟩)
  have hran : .ran ["cat b.txt".toList] ⟨5⟩ reply ∈ x.exchanges := by
    rw [hexchanges, hstatements]
    exact List.mem_append_right _ (List.mem_singleton_self _)
  exact ⟨is, settings, before, [], e, rfl, rfl, rfl, hcalm, rfl, by decide +kernel, fs, x, gs,
    reply, hacc, hnumbered, hran⟩

/-- No name is lacking and no session has broken, yet nothing is sent: a tag is written twice. -/
theorem repeated_tag_not_sent :
    ∃ (is : Interpreters Scripted) (settings : Settings) (e : Example),
      settings.failFast = false ∧ (settings.optionsOf e).executes = true ∧
      (settings.optionsOf e).paste = true ∧ (∀ l, CalmIn is settings l [e]) ∧
      (∀ value, firstMissing? value e = none) ∧
      (∃ session, is.start e.language = .ok session) ∧
      (runExamples is settings [e]).outcomes.map Outcome.state = [.errored] ∧
      ∀ l, (runExamples is settings [e]).callsOf l = [] := by
  let is := Scripted.interpreters []
  let settings : Settings := ⟨⟨2⟩, false, Options.none⟩
  let e : Example := ⟨"shell", ["ls  # byexample: +paste".toList], ["<id>-<id>".toList], 1, [],
    { Options.none with paste := true }⟩
  have hnames : statementNames e = [] := by decide +kernel
  have hexchanges : (runExamples is settings [e]).exchanges = [("shell", [])] := by decide +kernel
  refine ⟨is, settings, e, rfl, rfl, rfl, fun l r hr _ => ?_, fun value => ?_, ⟨_, rfl⟩,
    by decide +kernel, fun l => ?_⟩
  · obtain rfl : r = ("shell", []) := by simpa [hexchanges] using hr
    exact fun x hx => by cases hx
  · rw [firstMissing?, hnames]
    rfl
  · rw [FileRun.callsOf, hexchanges]
    cases h : "shell" == l <;> simp [h]

end Exemplar.Execution
