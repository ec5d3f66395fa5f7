import Exemplar.Proofs.Execution.Account

/-!
# The protocol of a session

What is exchanged with the interpreter of a language is nothing, or a start that fails, or a
start, runs and the end. Where a run stands is read off its memory, which holds a session once
one was started and a breakage once it broke; each turn moves from one of these places to the
next. Behind a breakage the examples are errored or skipped and nothing is exchanged.
-/
namespace Exemplar.Execution
open Session Expected

namespace Exchange

def isRun : Exchange → Bool
  | ran _ _ _ => true
  | _ => false

/-- A run that was answered with a complete output. -/
def succeeds : Exchange → Bool
  | ran _ _ (.response r) => r.status == .ok
  | _ => false

/-- A session that cannot be started, or a run that does not succeed. -/
def breaks : Exchange → Bool
  | opened failure => failure.isSome
  | ran statements limit reply => !(ran statements limit reply).succeeds
  | closed => false

end Exchange

/-- The runs of a session: all but the last succeed. -/
structure Runs (calls : List Exchange) : Prop where
  isRun : ∀ x ∈ calls, x.isRun = true
  succeeds : ∀ x ∈ calls.dropLast, x.succeeds = true

/-- The exchanges of a language: none, a start that fails, or a start, some runs and the end. -/
inductive Protocol : List Exchange → Prop
  | nothing : Protocol []
  | refused (err : Session.Error) : Protocol [.opened (some err)]
  | served {calls : List Exchange} (hne : calls ≠ []) (h : Runs calls) :
      Protocol (.opened none :: (calls ++ [.closed]))

/-- The run of an example sends its statements, perhaps with pasted values, and its time
limit. Only examples that are not skipped are sent. -/
def Sends (settings : Settings) (e : Example) (x : Exchange) : Prop :=
  (settings.optionsOf e).executes = true ∧
    ∃ clipboard statements reply,
      pasteStatements clipboard (settings.optionsOf e) e = .ok statements ∧
        x = .ran statements (settings.limitOf e) reply

lemma Runs.nil : Runs [] := ⟨by simp, by simp⟩

lemma Runs.singleton {x : Exchange} (h : x.isRun = true) : Runs [x] :=
  ⟨by simpa using h, by simp⟩

lemma Runs.cons {x : Exchange} {calls : List Exchange} (h : Runs calls) (hx : x.isRun = true)
    (hok : x.succeeds = true) : Runs (x :: calls) := by
  refine ⟨by simpa using ⟨hx, h.isRun⟩, ?_⟩
  cases calls with
  | nil => simp
  | cons y calls => simpa using ⟨hok, by simpa using h.succeeds⟩

variable {σ : Type} {is : Interpreters σ} {settings : Settings}

/-- What can still be exchanged in a run that has come to a memory. -/
def Continues (m : Memory σ) (calls : List Exchange) : Prop :=
  match m.session, m.broken with
  | none, none => Protocol calls
  | none, some _ => calls = []
  | some _, none => ∃ runs, Runs runs ∧ calls = runs ++ [.closed]
  | some _, some _ => calls = [.closed]

/-- A reply breaks the session unless it is a complete output. -/
lemma Answered.succeeds_iff {e : Example} {limit : Duration} {clipboard kept : Captures}
    {pattern : Option Pattern} {reply : Reply} {o : Outcome} {b : Option Breakage}
    (h : Answered e limit clipboard pattern reply o b kept) (statements : List Text) :
    (Exchange.ran statements limit reply).succeeds = true ↔ b = none := by
  cases h <;> simp [Exchange.succeeds]

/-- One turn moves the protocol on. -/
lemma Turn.continues {m : Memory σ} {e : Example} {o : Outcome} {exchanges : List Exchange}
    {next : Memory σ} (h : Turn is settings m e ⟨some o, exchanges, next⟩)
    {calls : List Exchange} (hc : Continues next calls) : Continues m (exchanges ++ calls) := by
  cases h with
  | skipped | broken | unready => exact hc
  | refused _ hb _ hn _ =>
    obtain rfl : calls = [] := hc
    rw [Continues, hn, hb]
    exact .refused _
  | @sent p session session' opening reply _ b kept _ hb _ hs _ ha =>
    let x := Exchange.ran p.statements (settings.limitOf e) reply
    -- what follows the run is the end, and before it more runs if this one succeeds
    have hruns : ∃ runs, Runs (x :: runs) ∧ calls = runs ++ [.closed] := by
      cases b with
      | none =>
        obtain ⟨runs, hr, rfl⟩ := hc
        exact ⟨runs, hr.cons rfl ((ha.succeeds_iff p.statements).2 rfl), rfl⟩
      | some b =>
        obtain rfl : calls = [.closed] := hc
        exact ⟨[], .singleton rfl, rfl⟩
    obtain ⟨runs, hr, rfl⟩ := hruns
    rw [Continues, hb]
    cases hs with
    | «open» hm =>
      rw [hm]
      exact ⟨x :: runs, hr, rfl⟩
    | new hm _ =>
      rw [hm]
      exact .served (List.cons_ne_nil x runs) hr

/-- The exchanges of a run follow the protocol from where it begins. -/
theorem Ledger.continues {m m' : Memory σ} {stopped : Bool} {examples : List (Nat × Example)}
    {xs : List Entry} (h : Ledger is settings m stopped examples xs m') :
    Continues m (xs.flatMap Entry.exchanges ++ closed m') := by
  induction h with
  | @done m stopped =>
    rw [List.flatMap_nil, List.nil_append, Continues, closed]
    cases m.session <;> cases m.broken
    · exact .nothing
    · rfl
    · exact ⟨[], .nil, rfl⟩
    · rfl
  | unreached _ ih => exact ih
  | @step m m' i e rest xs o exchanges next hs _ ih =>
    rw [List.flatMap_cons, List.append_assoc]
    exact (turn_of_step hs).continues ih

/-- The exchanges for one example are at most a start and a run, and the run is its own. -/
lemma Turn.sends {m : Memory σ} {e : Example} {s : Step σ} (h : Turn is settings m e s) :
    s.exchanges.countP Exchange.isRun ≤ 1 ∧
      ∀ x ∈ s.exchanges, x.isRun = true → Sends settings e x := by
  have hsent : ∀ {p : Prepared} {session : σ} {opening : List Exchange} {reply : Reply},
      (settings.optionsOf e).executes = true →
      prepare m.clipboard (settings.optionsOf e) e = .ok p →
      Provides is m e.language session opening →
      (opening ++ [Exchange.ran p.statements (settings.limitOf e) reply]).countP
          Exchange.isRun ≤ 1 ∧
        ∀ x ∈ opening ++ [Exchange.ran p.statements (settings.limitOf e) reply],
          x.isRun = true → Sends settings e x := by
    intro p session opening reply hx hp hs
    have hpaste : pasteStatements m.clipboard (settings.optionsOf e) e = .ok p.statements := by
      rw [prepare] at hp
      split at hp
      · cases hp
      · rename_i statements hst
        split at hp
        · cases hp
        · cases hp
          exact hst
    have hrun : Sends settings e (.ran p.statements (settings.limitOf e) reply) :=
      ⟨hx, m.clipboard, p.statements, reply, hpaste, rfl⟩
    cases hs with
    | «open» => exact ⟨by simp [Exchange.isRun], by simpa using fun _ => hrun⟩
    | new => exact ⟨by simp [Exchange.isRun], by simpa [Exchange.isRun] using hrun⟩
  cases h with
  | skipped | broken | unready => simp
  | refused => simp [Exchange.isRun]
  | sent hx _ hp hs _ _ => exact hsent hx hp hs
  | lost hx _ hp hs _ => exact hsent hx hp hs

lemma Ledger.sends {m m' : Memory σ} {stopped : Bool} {examples : List (Nat × Example)}
    {xs : List Entry} (h : Ledger is settings m stopped examples xs m') :
    ∀ x ∈ xs, x.exchanges.countP Exchange.isRun ≤ 1 ∧
      ∀ c ∈ x.exchanges, c.isRun = true → Sends settings x.subject c := by
  induction h with
  | done => simp
  | unreached _ ih => simpa using ih
  | @step m m' i e rest xs o exchanges next hs _ ih =>
    intro x hx
    rcases List.mem_cons.1 hx with rfl | hx
    · exact (turn_of_step hs).sends
    · exact ih x hx

/-- What is left of a run that stopped for no failure and whose session broke. -/
def Idle (settings : Settings) (x : Entry) : Prop :=
  x.exchanges = [] ∧
    x.outcome.state = if (settings.optionsOf x.subject).executes then .errored else .skipped

/-- Behind a breakage nothing is exchanged and nothing changes. -/
lemma Ledger.idle {m m' : Memory σ} {stopped : Bool} {examples : List (Nat × Example)}
    {xs : List Entry} (h : Ledger is settings m stopped examples xs m')
    (hf : settings.failFast = false) (hs : stopped = false) {b : Breakage}
    (hb : m.broken = some b) : ∀ x ∈ xs, Idle settings x := by
  induction h with
  | done => simp
  | unreached => cases hs
  | @step m m' i e rest xs o exchanges next hstep _ ih =>
    have hsame : next = m ∧ exchanges = [] ∧
        o.state = if (settings.optionsOf e).executes then .errored else .skipped := by
      cases turn_of_step hstep with
      | skipped hx => simp [hx, Outcome.skipped]
      | broken hx _ =>
        rw [if_pos hx]
        exact ⟨rfl, rfl, rfl⟩
      | unready _ hn | refused _ hn | sent _ hn => simp [hn] at hb
    obtain ⟨rfl, rfl, hstate⟩ := hsame
    intro x hx
    rcases List.mem_cons.1 hx with rfl | hx
    · exact ⟨rfl, hstate⟩
    · exact ih (not_stops hf o) hb x hx

/-- A reply that breaks the session leaves its example errored. -/
lemma Answered.errored_of_broken {e : Example} {limit : Duration} {clipboard kept : Captures}
    {pattern : Option Pattern} {reply : Reply} {o : Outcome} {b : Breakage}
    (h : Answered e limit clipboard pattern reply o (some b) kept) : o.state = .errored := by
  cases h <;> rfl

/-- An exchange that breaks the session leaves a breakage, and its example errored. -/
lemma Turn.errored_of_breaks {m : Memory σ} {e : Example} {o : Outcome}
    {exchanges : List Exchange} {next : Memory σ}
    (h : Turn is settings m e ⟨some o, exchanges, next⟩)
    (hx : exchanges.any Exchange.breaks = true) :
    o.state = .errored ∧ ∃ b, next.broken = some b := by
  cases h with
  | skipped | broken | unready => simp at hx
  | refused => exact ⟨rfl, _, rfl⟩
  | @sent p session session' opening reply _ b kept _ _ _ hs _ ha =>
    cases b with
    | some b => exact ⟨ha.errored_of_broken, b, rfl⟩
    | none =>
      have hok := (ha.succeeds_iff p.statements).2 rfl
      cases hs <;> simp [Exchange.breaks, hok] at hx

/-- The example that breaks the session is errored, and those behind it find a broken one. -/
theorem Ledger.exists_behind {m m' : Memory σ} {stopped : Bool}
    {examples : List (Nat × Example)} {xs : List Entry}
    (h : Ledger is settings m stopped examples xs m') {before behind : List Entry} {x : Entry}
    (hxs : xs = before ++ x :: behind) (hx : x.exchanges.any Exchange.breaks = true) :
    x.outcome.state = .errored ∧ ∃ n b rest, n.broken = some b ∧
      Ledger is settings n (stops settings x.outcome) rest behind m' := by
  induction h generalizing before with
  | done => simp at hxs
  | unreached _ ih =>
    cases before with
    | nil =>
      obtain ⟨rfl, rfl⟩ := List.cons.inj hxs
      simp at hx
    | cons y before => exact ih (List.cons.inj hxs).2
  | @step m m' i e rest xs o exchanges next hs hl ih =>
    cases before with
    | nil =>
      obtain ⟨rfl, rfl⟩ := List.cons.inj hxs
      obtain ⟨hstate, b, hb⟩ := (turn_of_step hs).errored_of_breaks hx
      exact ⟨hstate, next, b, rest, hb, hl⟩
    | cons y before => exact ih (List.cons.inj hxs).2

/-- Behind a failure that stops the run nothing is reached. -/
lemma Ledger.eq_unreached {m m' : Memory σ} {stopped : Bool} {examples : List (Nat × Example)}
    {xs : List Entry} (h : Ledger is settings m stopped examples xs m') (hs : stopped = true) :
    ∀ x ∈ xs, x = .unreached x.numbered := by
  induction h with
  | done => simp
  | unreached _ ih => exact List.forall_mem_cons.2 ⟨rfl, ih rfl⟩
  | step => cases hs

/-- What is told of a language whose session does not panic, if these are the outcomes of the file
and the calls of the language: its examples have entries, each with its outcome and its calls. -/
structure Served (is : Interpreters σ) (settings : Settings) (examples : List Example)
    (language : String) (outcomes : List Outcome) (calls : List Exchange) (es : List Entry) :
    Prop where
  protocol : Protocol calls
  numbered_eq : es.map Entry.numbered = ofLanguage language (numbered examples)
  /-- The entries are those of a run of the language alone; only the examples behind a stop were
  not reached. -/
  cutShort : ∃ m own rest,
    CutShort is settings (ofLanguage language (numbered examples)) m es own rest
  outcomes_eq : ∀ x ∈ es, outcomes[x.number]? = some x.outcome
  /-- The calls are those of the entries in the order of the file, and the end. -/
  calls_eq : calls = es.flatMap Entry.exchanges ++ ending (es.flatMap Entry.exchanges)
  /-- An example gives at most one run, its own. -/
  sends : ∀ x ∈ es, x.exchanges.countP Exchange.isRun ≤ 1 ∧
    ∀ c ∈ x.exchanges, c.isRun = true → Sends settings x.subject c
  /-- The example that breaks the session is errored, and nothing is exchanged for those behind. -/
  broken : ∀ before x behind, es = before ++ x :: behind →
    x.exchanges.any Exchange.breaks = true → x.outcome.state = .errored ∧
      ∀ y ∈ behind, if settings.failFast then y = .unreached y.numbered else Idle settings y

namespace CutShort
variable {examples : List (Nat × Example)} {m : Memory σ} {es own : List Entry}
  {rest : List (Nat × Example)} (h : CutShort is settings examples m es own rest)
include h

lemma sends : ∀ x ∈ es, x.exchanges.countP Exchange.isRun ≤ 1 ∧
    ∀ c ∈ x.exchanges, c.isRun = true → Sends settings x.subject c := by
  rw [h.entries]
  refine List.forall_mem_append.2 ⟨h.ledger.sends, fun x hx => ?_⟩
  obtain ⟨y, -, rfl⟩ := List.mem_map.1 hx
  simp [Entry.unreached]

/-- An example that breaks the session was reached. -/
lemma exists_own {before behind : List Entry} {x : Entry} (hes : es = before ++ x :: behind)
    (hx : x.exchanges.any Exchange.breaks = true) :
    ∃ after, own = before ++ x :: after ∧ behind = after ++ rest.map Entry.unreached := by
  have hreached : x ∉ rest.map Entry.unreached := by
    intro hmem
    obtain ⟨y, -, rfl⟩ := List.mem_map.1 hmem
    simp [Entry.unreached] at hx
  rw [h.entries] at hes
  rcases List.append_eq_append_iff.1 hes with ⟨more, -, hrest⟩ | ⟨after, hown, hbehind⟩
  · exact absurd (hrest ▸ List.mem_append_right _ (List.mem_cons_self ..)) hreached
  · cases after with
    | nil =>
      rw [List.nil_append] at hbehind
      exact absurd (hbehind ▸ List.mem_cons_self) hreached
    | cons y after =>
      obtain ⟨rfl, rfl⟩ := List.cons.inj hbehind
      exact ⟨after, hown, rfl⟩

/-- All examples behind the one that breaks the session are errored or skipped, or not reached. -/
lemma broken {before behind : List Entry} {x : Entry} (hes : es = before ++ x :: behind)
    (hx : x.exchanges.any Exchange.breaks = true) : x.outcome.state = .errored ∧
      ∀ y ∈ behind, if settings.failFast then y = .unreached y.numbered else Idle settings y := by
  obtain ⟨after, hown, rfl⟩ := h.exists_own hes hx
  obtain ⟨hstate, n, b, later, hb, hl⟩ := h.ledger.exists_behind hown hx
  refine ⟨hstate, ?_⟩
  cases hf : settings.failFast with
  | true =>
    have hstops : stops settings x.outcome = true := by simp [stops, hf, hstate]
    refine List.forall_mem_append.2 ⟨hl.eq_unreached hstops, fun y hy => ?_⟩
    obtain ⟨z, -, rfl⟩ := List.mem_map.1 hy
    rfl
  | false =>
    obtain rfl : rest = [] := by_contra fun hne => absurd (h.failFast hne) (by simp [hf])
    simpa using hl.idle hf (not_stops hf x.outcome) hb

end CutShort

/-- However the languages of a file alternate, one that does not panic is served. -/
theorem Crew.EndOf.served {c : Crew σ} {examples : List Example} {language : String}
    {a : Stage σ} (hc : c.EndOf is settings examples) (ht : (language, a) ∈ c.stages)
    (hlost : a.isLost = false) :
    Served is settings examples language (c.outcomes examples) a.calls a.done := by
  have hover := hc.finished _ ht
  cases a with
  | looking | executing => cases hover
  | lost => cases hlost
  | ended m es =>
    obtain ⟨own, rest, hcut⟩ := hc.exists_cutShort ht
    have hcalls : (Stage.ended m es).calls = own.flatMap Entry.exchanges ++ closed m :=
      congrArg (· ++ closed m) hcut.flatMap_exchanges
    exact {
      protocol := hcalls ▸ hcut.ledger.continues
      numbered_eq := hcut.numbered_eq
      cutShort := ⟨m, own, rest, hcut⟩
      outcomes_eq := fun x => hc.getElem?_outcomes ht
      calls_eq := by rw [hcalls, hcut.ledger.closed_eq, ← hcut.flatMap_exchanges]; rfl
      sends := hcut.sends
      broken := fun before x behind => hcut.broken }

/-- Every language of a file is served once, however the languages alternate, and what is exchanged
with its interpreter follows the protocol if its session does not panic. Each example gives at most
one run, its own, in the order of the file. Behind the example that breaks the session, unless the
run stops there, examples are errored and exchange nothing, and the skipped ones stay skipped. All
this holds of the languages one after the other, and of every end that they can come to beside each
other. -/
theorem runExamples_protocol (is : Interpreters σ) (settings : Settings)
    (examples : List Example) :
    ((runExamples is settings examples).exchanges.map Prod.fst).Nodup ∧
    (∀ language calls, (language, calls) ∈ (runExamples is settings examples).exchanges →
      Calm calls →
      ∃ es, Served is settings examples language (runExamples is settings examples).outcomes
        calls es) ∧
    ∀ c : Crew σ, c.EndOf is settings examples →
      (c.exchanges.map Prod.fst).Nodup ∧
      ∀ language a, (language, a) ∈ c.stages → a.isLost = false →
        Served is settings examples language (c.outcomes examples) a.calls a.done := by
  have hnodup : ∀ c : Crew σ, c.EndOf is settings examples →
      (c.exchanges.map Prod.fst).Nodup := by
    intro c hc
    have hlanguages : c.exchanges.map Prod.fst = languagesOf examples :=
      List.map_map.trans hc.kept.sound.languages
    exact hlanguages ▸ languagesOf_nodup examples
  obtain ⟨c, hc, houtcomes, hexchanges, hkept⟩ := exists_endOf_runExamples is settings examples
  rw [← hexchanges, ← houtcomes]
  refine ⟨hnodup c hc, fun language calls hcalls hcalm => ?_,
    fun d hd => ⟨hnodup d hd, fun language a ht hlost => hd.served ht hlost⟩⟩
  obtain ⟨⟨l, a⟩, ht, he⟩ := List.mem_map.1 hcalls
  obtain ⟨rfl, rfl⟩ := Prod.mk.inj he
  exact ⟨a.done, hc.served ht (hkept _ ht hcalm)⟩

/-- The second run times out, so the third example is errored and the last one, which is
skipped, stays skipped. The other language has its own session between them. -/
theorem runExamples_protocol_time_out :
    ∃ (is : Interpreters Scripted) (settings : Settings) (examples : List Example)
      (calls : List Exchange),
      settings.failFast = false ∧ examples.map Example.language =
        ["python", "python", "shell", "python", "python"] ∧
      ("python", calls) ∈ (runExamples is settings examples).exchanges ∧ Calm calls ∧
      Exchange.ran ["spin".toList] ⟨5⟩ (.response ⟨"1".toList, .timedOut⟩) ∈ calls ∧
      ∃ before x behind, Served is settings examples "python"
          (runExamples is settings examples).outcomes calls (before ++ x :: behind) ∧
        x.exchanges.any Exchange.breaks = true ∧ ∀ y ∈ behind, Idle settings y := by
  let late : Reply := .response ⟨"1".toList, .timedOut⟩
  let is := Scripted.interpreters
    [("python", ⟨.opens, [("spin".toList, [.response ⟨"1".toList, .timedOut⟩])]⟩)]
  let settings : Settings := ⟨⟨5⟩, false, Options.none⟩
  let sent : Options := { Options.none with pass := true }
  let examples : List Example :=
    [⟨"python", ["go".toList], [], 1, [], sent⟩, ⟨"python", ["spin".toList], [], 2, [], sent⟩,
      ⟨"shell", ["ls".toList], [], 3, [], sent⟩, ⟨"python", ["go".toList], [], 4, [], sent⟩,
      ⟨"python", ["go".toList], [], 5, [], { sent with skip := true }⟩]
  let calls : List Exchange :=
    [.opened none, .ran ["go".toList] ⟨5⟩ (.response ⟨"go\n".toList, .ok⟩),
      .ran ["spin".toList] ⟨5⟩ late, .closed]
  have hmem : ("python", calls) ∈ (runExamples is settings examples).exchanges := by
    decide +kernel
  have hcalm : Calm calls := by decide
  have hlate : Exchange.ran ["spin".toList] ⟨5⟩ late ∈ calls := by simp [calls]
  obtain ⟨es, hserved⟩ :=
    (runExamples_protocol is settings examples).2.1 "python" calls hmem hcalm
  have hin : Exchange.ran ["spin".toList] ⟨5⟩ late ∈ es.flatMap Entry.exchanges := by
    have hlate' := hlate
    rw [hserved.calls_eq, ending] at hlate'
    split at hlate' <;> simpa using hlate'
  obtain ⟨x, hx, hxlate⟩ := List.mem_flatMap.1 hin
  obtain ⟨before, behind, rfl⟩ := List.append_of_mem hx
  have hbreaks : x.exchanges.any Exchange.breaks = true := List.any_eq_true.2 ⟨_, hxlate, rfl⟩
  exact ⟨is, settings, examples, calls, rfl, rfl, hmem, hcalm, hlate, before, x, behind, hserved,
    hbreaks, (hserved.broken before x behind rfl hbreaks).2⟩

end Exemplar.Execution
