import Exemplar.Files.Tree
import Exemplar.Session.Frame

/-!
# Sessions with a process

A live session sends the statements of a run to a process, with the sentinel behind them,
and waits for the output. Whatever goes wrong leaves the session dead, and a dead session
never answers again.
-/
namespace Exemplar.Session

/-- What became of writing to a process. -/
inductive Written
  | ok
  | brokenPipe
  | failed (cause : String)
  deriving DecidableEq, Repr

/-- Events that came from a process. -/
structure Heard (π : Type) where
  events : List Event
  /-- The process once so many of the events have been taken. -/
  resume : Nat → π

/-- How processes of a kind behave. -/
structure System (π : Type) where
  launch : String → List String → Except Files.SystemError π
  /-- What came from a process while nobody waited for it. -/
  leftOver : π → Heard π
  /-- Write to the input of a process. -/
  send : π → Text → Written × π
  /-- What comes from a process until the time is up. -/
  listen : π → Duration → Heard π
  /-- Close the input of a process, give it so much time to end by itself, and kill it. -/
  stop : π → Duration → π
  /-- Let time pass. -/
  wait : π → Duration → π

structure Live (π : Type) where
  spec : Spec
  process : π
  /-- Whether there is an input left to write to. -/
  inputOpen : Bool
  alive : Bool
  /-- Runs so far; they number the tokens. -/
  runs : Nat

/-- How long an interpreter may take to start. -/
def startLimit : Duration := Duration.ofParts 10 0

/-- How long an interpreter may take to end when its session is shut down. -/
def shutdownGrace : Duration := Duration.ofMilliseconds 500

/-- All that is sent for one run. -/
def inputFor (spec : Spec) (token : Text) (statements : List Text) : Text :=
  statements.flatMap (· ++ ['\n']) ++
    (match spec.terminator with
      | some t => t ++ ['\n']
      | none => []) ++
    spec.sentinelFor token ++ ['\n']

/-- How many events are dropped before a run, and whether none of them closed a stream. -/
def discarded : List Event → Nat × Bool
  | [] => (0, true)
  | .closed _ :: _ => (1, false)
  | _ :: es =>
    let (count, isOpen) := discarded es
    (count + 1, isOpen)

namespace Live
variable {π : Type}

/-- Close the input and wait so long for the process, then kill it. -/
def stop (system : System π) (s : Live π) (grace : Duration) : Live π :=
  { s with process := system.stop s.process grace, inputOpen := false, alive := false }

def kill (system : System π) (s : Live π) : Live π := s.stop system (Duration.ofParts 0 0)

/-- Drop what was left over by the run before; whether the streams are still open. -/
def discardPending (system : System π) (s : Live π) : Bool × Live π :=
  let heard := system.leftOver s.process
  let (count, isOpen) := discarded heard.events
  (isOpen, { s with process := heard.resume count })

def send (system : System π) (s : Live π) (input : Text) : Written × Live π :=
  if s.inputOpen then
    let (written, process) := system.send s.process input
    (written, { s with process })
  else (.brokenPipe, s)

/-- Wait for the output of a run. Only a complete output keeps the session alive. -/
def collect (system : System π) (s : Live π) (token : Text) (limit : Duration) :
    Response × Live π :=
  let heard := system.listen s.process limit
  let r := Session.collect s.spec token heard.events
  let s : Live π := { s with process := heard.resume (taken token heard.events) }
  (r, if r.status = .ok then s else s.kill system)

/-- Send the input of a run and wait for its output. -/
def request (system : System π) (s : Live π) (token input : Text) (limit : Duration) :
    Except Error Response × Live π :=
  match s.send system input with
  | (.brokenPipe, s) => (.ok ⟨[], .crashed⟩, s.kill system)
  | (.failed cause, s) => (.error (.io s.spec.language cause), s.kill system)
  | (.ok, s) =>
    let (r, s) := s.collect system token limit
    (.ok r, s)

/-- Run statements. `owner` is the number of the process that made the session. -/
def run (system : System π) (owner : Nat) (s : Live π) (statements : List Text) (limit : Duration) :
    Except Error Response × Live π :=
  if s.alive then
    match s.discardPending system with
    | (false, s) => (.ok ⟨[], .crashed⟩, s.kill system)
    | (true, s) =>
      let s : Live π := { s with runs := s.runs + 1 }
      let token := tokenFor owner s.runs
      s.request system token (inputFor s.spec token statements) limit
  else (.error (.closed s.spec.language), s)

/-- Ending a session twice is the same as ending it once. -/
def shutdown (system : System π) (s : Live π) : Live π :=
  if s.alive then s.stop system shutdownGrace else s

/-- Let time pass between two runs. -/
def wait (system : System π) (s : Live π) (d : Duration) : Live π :=
  { s with process := system.wait s.process d }

/-- Start the interpreter and let it run its first statements. -/
def start (system : System π) (owner : Nat) (spec : Spec) : Except Error (Live π) :=
  match system.launch spec.program spec.args with
  | .error cause => .error (.spawn spec.language spec.program cause.message)
  | .ok process =>
    let fresh : Live π := ⟨spec, process, true, true, 0⟩
    match fresh.run system owner spec.init startLimit with
    | (.error e, _) => .error e
    | (.ok r, s) => if r.status = .ok then .ok s else .error (.notReady spec.language r)

end Live

end Exemplar.Session
