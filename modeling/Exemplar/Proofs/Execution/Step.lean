import Exemplar.Execution.Language
import Mathlib.Data.List.Basic

/-!
# What one example does

An example is skipped, is errored without a session, fails to get a session, or is sent to
one. What is sent, what the reply makes of the example and of the session, and what is carried
on are told here once, and all that is proved of runs follows from it.
-/
namespace Exemplar.Execution
open Session Expected

/-- The options that an example runs with. -/
def Settings.optionsOf (settings : Settings) (e : Example) : Options :=
  e.options.withDefaults settings.defaults

/-- The time limit of an example. -/
def Settings.limitOf (settings : Settings) (e : Example) : Duration :=
  (settings.optionsOf e).timeout.getD settings.timeout

/-- An example that is ready has the pattern of its expected lines. -/
lemma prepare_eq_ok {clipboard : Captures} {o : Options} {e : Example} {p : Prepared}
    (h : prepare clipboard o e = .ok p) : expectedPattern clipboard o e = .ok p.pattern := by
  rw [prepare] at h
  split at h
  · cases h
  · split at h
    · cases h
    · rename_i hpattern
      obtain rfl := Except.ok.inj h
      exact hpattern

/-- An example that is not ready lacks a value for its statements or has no pattern. -/
lemma prepare_eq_error {clipboard : Captures} {o : Options} {e : Example} {t : Trouble}
    (h : prepare clipboard o e = .error t) :
    (∃ name, t = .nothingCaptured name) ∨ expectedPattern clipboard o e = .error t := by
  rw [prepare] at h
  split at h
  · rename_i t' hstatements
    obtain rfl := Except.error.inj h
    rw [pasteStatements] at hstatements
    split at hstatements
    · cases hpaste : pasteAll clipboard e.statements with
      | ok statements =>
        rw [hpaste] at hstatements
        cases hstatements
      | error name =>
        rw [hpaste] at hstatements
        exact .inl ⟨name, (Except.error.inj hstatements).symm⟩
    · cases hstatements
  · split at h
    · rename_i hpattern
      obtain rfl := Except.error.inj h
      exact .inr hpattern
    · cases h

/-- What a reply makes of the example: its outcome, the breakage of the session, if it broke,
and the captures that are kept. -/
inductive Answered (e : Example) (limit : Duration) (clipboard : Captures)
    (pattern : Option Pattern) : Reply → Outcome → Option Breakage → Captures → Prop
  | failed (err : Session.Error) :
      Answered e limit clipboard pattern (.failed err) (.errored e none (.session err))
        (some (.failed err)) clipboard
  | timedOut (output : Text) :
      Answered e limit clipboard pattern (.response ⟨output, .timedOut⟩)
        (.errored e (some output) (.timedOut limit))
        (some (.timedOut e.language e.line limit)) clipboard
  | crashed (output : Text) :
      Answered e limit clipboard pattern (.response ⟨output, .crashed⟩)
        (.errored e (some output) .exited) (some (.exited e.language e.line)) clipboard
  | ok (output : Text) :
      Answered e limit clipboard pattern (.response ⟨output, .ok⟩)
        (judge clipboard e pattern output).1 none (judge clipboard e pattern output).2

variable {σ : Type}

/-- A session for the next run: the one that is open, or a new one, which is then the first
thing that is exchanged. -/
inductive Provides (is : Interpreters σ) (m : Memory σ) (language : String) :
    σ → List Exchange → Prop
  | open {session : σ} (h : m.session = some session) : Provides is m language session []
  | new {session : σ} (h : m.session = none) (hs : is.start language = .ok session) :
      Provides is m language session [.opened none]

/-- All that a step can be. -/
inductive Turn (is : Interpreters σ) (settings : Settings) (m : Memory σ) (e : Example) :
    Step σ → Prop
  | skipped (hx : (settings.optionsOf e).executes = false) :
      Turn is settings m e ⟨some (.skipped e), [], m⟩
  | broken {b : Breakage} (hx : (settings.optionsOf e).executes = true) (hb : m.broken = some b) :
      Turn is settings m e ⟨some (.errored e none (.broken b)), [], m⟩
  | unready {t : Trouble} (hx : (settings.optionsOf e).executes = true) (hb : m.broken = none)
      (hp : prepare m.clipboard (settings.optionsOf e) e = .error t) :
      Turn is settings m e ⟨some (.errored e none t), [], m⟩
  | refused {p : Prepared} {err : Session.Error} (hx : (settings.optionsOf e).executes = true)
      (hb : m.broken = none) (hp : prepare m.clipboard (settings.optionsOf e) e = .ok p)
      (hn : m.session = none) (hs : is.start e.language = .error err) :
      Turn is settings m e ⟨some (.errored e none (.session err)), [.opened (some err)],
        ⟨none, some (.failed err), m.clipboard⟩⟩
  | sent {p : Prepared} {session session' : σ} {opening : List Exchange} {reply : Reply}
      {o : Outcome} {b : Option Breakage} {clipboard : Captures}
      (hx : (settings.optionsOf e).executes = true) (hb : m.broken = none)
      (hp : prepare m.clipboard (settings.optionsOf e) e = .ok p)
      (hs : Provides is m e.language session opening)
      (hr : is.run session p.statements (settings.limitOf e) = (reply, session'))
      (ha : Answered e (settings.limitOf e) m.clipboard p.pattern reply o b clipboard) :
      Turn is settings m e ⟨some o, opening ++ [.ran p.statements (settings.limitOf e) reply],
        ⟨some session', b, clipboard⟩⟩
  | lost {p : Prepared} {session session' : σ} {opening : List Exchange}
      (hx : (settings.optionsOf e).executes = true) (hb : m.broken = none)
      (hp : prepare m.clipboard (settings.optionsOf e) e = .ok p)
      (hs : Provides is m e.language session opening)
      (hr : is.run session p.statements (settings.limitOf e) = (.panicked, session')) :
      Turn is settings m e ⟨none, opening ++ [.ran p.statements (settings.limitOf e) .panicked],
        ⟨some session', none, m.clipboard⟩⟩

variable {is : Interpreters σ} {settings : Settings} {m : Memory σ} {e : Example}

/-- Sending a prepared example is a turn. -/
lemma turn_of_send {p : Prepared} {session : σ} {opening : List Exchange}
    (hx : (settings.optionsOf e).executes = true) (hb : m.broken = none)
    (hp : prepare m.clipboard (settings.optionsOf e) e = .ok p)
    (hs : Provides is m e.language session opening) :
    Turn is settings m e
      (let s := send is (settings.limitOf e) e m.clipboard p session
      ⟨s.outcome, opening ++ s.exchanges, s.memory⟩) := by
  rcases hr : is.run session p.statements (settings.limitOf e) with ⟨reply, session'⟩
  rcases reply with ⟨output, status⟩ | err | _
  · cases status with
    | ok =>
      simp only [send, hr]
      exact .sent hx hb hp hs hr (.ok output)
    | crashed =>
      simp only [send, hr]
      exact .sent hx hb hp hs hr (.crashed output)
    | timedOut =>
      simp only [send, hr]
      exact .sent hx hb hp hs hr (.timedOut output)
  · simp only [send, hr]
    exact .sent hx hb hp hs hr (.failed err)
  · simp only [send, hr]
    exact .lost hx hb hp hs hr

/-- Every step is one of these turns. -/
theorem step_turn (is : Interpreters σ) (settings : Settings) (m : Memory σ) (e : Example) :
    Turn is settings m e (step is settings m e) := by
  rw [step]
  change Turn is settings m e (if (settings.optionsOf e).executes then
    execute is settings (settings.optionsOf e) m e else _)
  by_cases hx : (settings.optionsOf e).executes = true
  · rw [if_pos hx, execute]
    cases hb : m.broken with
    | some b => exact .broken hx hb
    | none =>
      cases hp : prepare m.clipboard (settings.optionsOf e) e with
      | error t => exact .unready hx hb hp
      | ok p =>
        cases hm : m.session with
        | some session => exact turn_of_send hx hb hp (.open hm)
        | none =>
          cases hs : is.start e.language with
          | error err => exact .refused hx hb hp hm hs
          | ok session => exact turn_of_send hx hb hp (.new hm hs)
  · rw [if_neg hx]
    exact .skipped (by simpa using hx)

lemma turn_of_step {s : Step σ} (h : step is settings m e = s) : Turn is settings m e s :=
  h ▸ step_turn is settings m e

end Exemplar.Execution
