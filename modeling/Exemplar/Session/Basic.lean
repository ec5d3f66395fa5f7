import Exemplar.Log
import Exemplar.Number.Duration

/-!
# Sessions

A session keeps one interpreter alive, so that statements see what earlier ones left
behind. Whoever runs examples only sees what is described here: starting a session for a
language, and running statements in it.
-/
namespace Exemplar.Session

inductive Status
  | ok
  /-- The interpreter exited or closed one of its streams. -/
  | crashed
  /-- The statements did not finish in time. -/
  | timedOut
  deriving DecidableEq, Repr

def Status.name : Status → String
  | ok => "Ok"
  | crashed => "Crashed"
  | timedOut => "TimedOut"

structure Response where
  output : Text
  status : Status
  deriving DecidableEq, Repr

/-- Why a session cannot be used. -/
inductive Error
  | spawn (language program cause : String)
  | io (language cause : String)
  | unknownLanguage (language : String)
  | closed (language : String)
  /-- The interpreter did not get through its first statements. -/
  | notReady (language : String) (response : Response)
  deriving DecidableEq, Repr

def Error.message : Error → String
  | spawn language program cause => s!"failed to start `{program}` for {language}: {cause}"
  | io language cause => s!"i/o error talking to the {language} interpreter: {cause}"
  | unknownLanguage language => s!"no interpreter configured for `{language}`"
  | closed language => s!"the {language} session is closed"
  | notReady language _ => s!"the {language} session is closed"

/-- What comes of a run. -/
inductive Reply
  | response (r : Response)
  | failed (e : Error)
  /-- The session itself broke down, and everything it was doing is lost. -/
  | panicked
  deriving DecidableEq, Repr

/-- How sessions of a kind behave. Starting is a function of the language, so every
session starts afresh. -/
structure Interpreters (σ : Type) where
  start : String → Except Error σ
  /-- What the log says about a start, but for its failure. -/
  startRecords : String → List Log.Record
  run : σ → List Text → Duration → Reply × σ

/-- What the log says about a reply. -/
def Reply.records (language : String) : Reply → List Log.Record
  | .response r =>
    if r.status = .ok then [] else [⟨.debug, s!"{language} session ended: {r.status.name}"⟩]
  | _ => []

end Exemplar.Session
