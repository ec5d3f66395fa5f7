import Exemplar.Execution.Outcome

/-!
# Running the examples of one language

The examples of a language share one session, which is started when the first of them
needs it. Statements are sent in the order of the file. A session that broke is not
started again: the examples behind are errored. Values captured by examples that passed
can be pasted into later ones.
-/
namespace Exemplar.Execution
open Session Expected

structure Settings where
  /-- Time limit of examples that set none. -/
  timeout : Duration
  /-- The first failure stops the run. -/
  failFast : Bool
  defaults : Options
  deriving DecidableEq, Repr

/-- What is exchanged with the interpreters of a language. -/
inductive Exchange
  | opened (failure : Option Session.Error)
  | ran (statements : List Text) (limit : Duration) (reply : Reply)
  | closed
  deriving DecidableEq, Repr

/-- What a run carries from one example to the next. -/
structure Memory (σ : Type) where
  session : Option σ
  broken : Option Breakage
  clipboard : Captures

def Memory.fresh {σ : Type} : Memory σ := ⟨none, none, []⟩

/-- One example: what came of it, what was exchanged, and what is carried on. An outcome
is lacking if the session panicked. -/
structure Step (σ : Type) where
  outcome : Option Outcome
  exchanges : List Exchange
  memory : Memory σ

/-- An example that is ready to be sent. -/
structure Prepared where
  statements : List Text
  pattern : Option Pattern

/-- Paste into all lines; the first name without a value is the error. -/
def pasteAll (clipboard : Captures) : List Text → Except Text (List Text)
  | [] => .ok []
  | l :: ls =>
    match paste clipboard l with
    | .error name => .error name
    | .ok l' =>
      match pasteAll clipboard ls with
      | .error name => .error name
      | .ok ls' => .ok (l' :: ls')

def pasteStatements (clipboard : Captures) (o : Options) (e : Example) :
    Except Trouble (List Text) :=
  if o.paste then (pasteAll clipboard e.statements).mapError Trouble.nothingCaptured
  else .ok e.statements

def expectedLines (clipboard : Captures) (o : Options) (e : Example) : List Text :=
  if o.paste then e.expected.map (pasteKnown clipboard) else e.expected

/-- The pattern that the output is compared with, if it is. -/
def expectedPattern (clipboard : Captures) (o : Options) (e : Example) :
    Except Trouble (Option Pattern) :=
  if o.checksOutput then
    match Pattern.parse (Comparison.ofOptions o) (expectedLines clipboard o e) with
    | .ok p => .ok (some p)
    | .error err => .error (.repeatedTag err)
  else .ok none

/-- Everything that can be wrong with an example before anything is sent. -/
def prepare (clipboard : Captures) (o : Options) (e : Example) : Except Trouble Prepared :=
  match pasteStatements clipboard o e with
  | .error t => .error t
  | .ok statements =>
    match expectedPattern clipboard o e with
    | .error t => .error t
    | .ok pattern => .ok ⟨statements, pattern⟩

variable {σ : Type}

/-- The outcome of a complete output, and the captures with those of a match. -/
def judge (clipboard : Captures) (e : Example) (pattern : Option Pattern) (output : Text) :
    Outcome × Captures :=
  match pattern with
  | none => (.accepted e output, clipboard)
  | some p =>
    let r := p.matchOutput output
    (.compared e output p, if r.passed then r.captures.extend clipboard else clipboard)

/-- Send a prepared example to a session. -/
def send (is : Interpreters σ) (limit : Duration) (e : Example) (clipboard : Captures)
    (p : Prepared) (session : σ) : Step σ :=
  let (reply, session') := is.run session p.statements limit
  let ran := [Exchange.ran p.statements limit reply]
  match reply with
  | .panicked => ⟨none, ran, ⟨some session', none, clipboard⟩⟩
  | .failed err =>
    ⟨some (.errored e none (.session err)), ran, ⟨some session', some (.failed err), clipboard⟩⟩
  | .response r =>
    match r.status with
    | .timedOut =>
      ⟨some (.errored e (some r.output) (.timedOut limit)), ran,
        ⟨some session', some (.timedOut e.language e.line limit), clipboard⟩⟩
    | .crashed =>
      ⟨some (.errored e (some r.output) .exited), ran,
        ⟨some session', some (.exited e.language e.line), clipboard⟩⟩
    | .ok =>
      let judged := judge clipboard e p.pattern r.output
      ⟨some judged.1, ran, ⟨some session', none, judged.2⟩⟩

/-- Run one example that is not skipped. -/
def execute (is : Interpreters σ) (settings : Settings) (o : Options) (m : Memory σ) (e : Example) :
    Step σ :=
  match m.broken with
  | some b => ⟨some (.errored e none (.broken b)), [], m⟩
  | none =>
    match prepare m.clipboard o e with
    | .error t => ⟨some (.errored e none t), [], m⟩
    | .ok p =>
      let limit := o.timeout.getD settings.timeout
      match m.session with
      | some session => send is limit e m.clipboard p session
      | none =>
        match is.start e.language with
        | .error err =>
          ⟨some (.errored e none (.session err)), [.opened (some err)],
            ⟨none, some (.failed err), m.clipboard⟩⟩
        | .ok session =>
          let s := send is limit e m.clipboard p session
          ⟨s.outcome, .opened none :: s.exchanges, s.memory⟩

/-- Run or skip one example. -/
def step (is : Interpreters σ) (settings : Settings) (m : Memory σ) (e : Example) : Step σ :=
  let o := e.options.withDefaults settings.defaults
  if o.executes then execute is settings o m e else ⟨some (.skipped e), [], m⟩

/-- A failure that stops a run which is to stop at the first one. -/
def stops (settings : Settings) (o : Outcome) : Bool :=
  settings.failFast && (o.state == .failed || o.state == .errored)

/-- What the log says about an exchange. -/
def Exchange.records (is : Interpreters σ) (language : String) : Exchange → List Log.Record
  | opened none => is.startRecords language
  | opened (some e) => is.startRecords language ++ [⟨.error, e.message⟩]
  | ran _ _ reply => reply.records language
  | closed => []

def Outcome.record (language : String) (o : Outcome) : Log.Record :=
  ⟨.debug, s!"line {o.subject.line} [{language}]: {o.state.name}"⟩

/-- The examples of one language, each with its number in the file. -/
structure LanguageRun where
  /-- Outcomes by number; there are none if the session panicked. -/
  outcomes : List (Nat × Outcome)
  exchanges : List Exchange
  records : List Log.Record
  /-- A failure has stopped the run. -/
  stopped : Bool
  panicked : Bool
  deriving DecidableEq, Repr

/-- The end of a run: a session that was started is closed. -/
def closing (m : Memory σ) (stopped : Bool) : LanguageRun :=
  ⟨[], if m.session.isSome then [.closed] else [], [], stopped, false⟩

/-- Run numbered examples one after the other. Once the run has stopped, the rest is not
reached. -/
def runFrom (is : Interpreters σ) (settings : Settings) (language : String) (m : Memory σ)
    (stopped : Bool) : List (Nat × Example) → LanguageRun
  | [] => closing m stopped
  | (i, e) :: rest =>
    if stopped then
      let r := runFrom is settings language m stopped rest
      ⟨(i, .unreached e) :: r.outcomes, r.exchanges, r.records, r.stopped, r.panicked⟩
    else
      let s := step is settings m e
      let records := s.exchanges.flatMap (Exchange.records is language)
      match s.outcome with
      | none => ⟨[], s.exchanges, records, stopped, true⟩
      | some o =>
        let r := runFrom is settings language s.memory (stops settings o) rest
        ⟨if r.panicked then [] else (i, o) :: r.outcomes, s.exchanges ++ r.exchanges,
          records ++ o.record language :: r.records, r.stopped, r.panicked⟩

end Exemplar.Execution
