import Exemplar.Shell.Builtin.Variables

/-!
# Commands for signals and jobs

A shell ties actions to signals, sends signals, and waits for the commands that it has
begun in the background.
-/
namespace Exemplar.Shell.Builtin
open Text

/-- Names of signals in the order of their numbers. -/
def signalNames : List String :=
  ["EXIT", "HUP", "INT", "QUIT", "ILL", "TRAP", "ABRT", "BUS", "FPE", "KILL", "USR1", "SEGV",
    "USR2", "PIPE", "ALRM", "TERM", "16", "CHLD", "CONT", "STOP", "TSTP", "TTIN", "TTOU", "URG",
    "XCPU", "XFSZ", "VTALRM", "PROF", "WINCH", "IO", "PWR", "SYS", "32", "33", "RTMIN",
    "RTMIN+1", "RTMIN+2", "RTMIN+3", "RTMIN+4", "RTMIN+5", "RTMIN+6", "RTMIN+7", "RTMIN+8",
    "RTMIN+9", "RTMIN+10", "RTMIN+11", "RTMIN+12", "RTMIN+13", "RTMIN+14", "RTMIN+15",
    "RTMAX-14", "RTMAX-13", "RTMAX-12", "RTMAX-11", "RTMAX-10", "RTMAX-9", "RTMAX-8", "RTMAX-7",
    "RTMAX-6", "RTMAX-5", "RTMAX-4", "RTMAX-3", "RTMAX-2", "RTMAX-1", "RTMAX"]

def signalName (n : Nat) : String := (signalNames[n]?).getD (toString n)

/-- The number of a signal. -/
def signal? (least : Nat) (t : Text) : Option Nat :=
  match digits? t with
  | some n => if n < signalNames.length then some n else none
  | none =>
    let name := String.ofList (t.map Char.toUpper)
    let found := (List.range signalNames.length).find? fun n => n ≥ least && signalName n == name
    found

/-- What is told of a command that ended by a signal. -/
def signalText? (signal : Nat) : Option String :=
  match signal with
  | 1 => some "Hangup"
  | 3 => some "Quit"
  | 4 => some "Illegal instruction"
  | 5 => some "Trace/breakpoint trap"
  | 6 => some "Aborted"
  | 7 => some "Bus error"
  | 8 => some "Floating point exception"
  | 9 => some "Killed"
  | 10 => some "User defined signal 1"
  | 11 => some "Segmentation fault"
  | 12 => some "User defined signal 2"
  | 14 => some "Alarm clock"
  | 15 => some "Terminated"
  | 16 => some "Stack fault"
  | 24 => some "CPU time limit exceeded"
  | 25 => some "File size limit exceeded"
  | 26 => some "Virtual timer expired"
  | 27 => some "Profiling timer expired"
  | 29 => some "I/O possible"
  | 30 => some "Power failure"
  | 31 => some "Bad system call"
  | _ => none

/-- Tell of a command that ended by a signal. -/
def tellSignal (signal : Nat) (s : State) : State :=
  match signalText? signal with
  | some t => s.err (t ++ "\n").toList
  | none => s

def trapOne (action : Option Text) (name : Text) (s : State) : State × Bool :=
  match signal? 0 name with
  | none => ((s.err ("trap: ".toList ++ name ++ ": bad trap\n".toList)).withStatus 1, false)
  | some n =>
    let others := s.traps.filter fun t => t.1 ≠ n
    ({ s with traps := match action with
      | some a => (n, a) :: others
      | none => others }, true)

def trapListing (s : State) : Text :=
  (List.range signalNames.length).flatMap fun n =>
    match s.traps.lookup n with
    | some a =>
      "trap -- ".toList ++ singleQuoted a ++ ' ' :: (signalName n).toList ++ ['\n']
    | none => []

def trap (args : List Text) (s : State) : State :=
  withOptions "" args s fun g s =>
    let s := s.withStatus 0
    match g.operands with
    | [] => s.out (trapListing s)
    | first :: rest =>
      let (action, names) : Option Text × List Text :=
        if rest.isEmpty || (digits? first).any (· < signalNames.length) then (none, first :: rest)
        else if first = ['-'] then (none, rest)
        else (some first, rest)
      (names.foldl (fun (x : State × Bool) name =>
        if x.2 then trapOne action name x.1 else x) (s, true)).1

def jobOf? (s : State) (k : KnownJob) : Option Job :=
  s.world.jobs.find? fun j => j.number == k.number

def isRunning (s : State) (k : KnownJob) : Bool :=
  match jobOf? s k with
  | some j => s.world.now < j.ends
  | none => false

/-- Begin to know a job. A job that was waited for makes room. -/
def learn (number : Nat) (s : State) : State :=
  let done := s.known.filter fun k => k.waited && !isRunning s k
  let slots := s.known.map KnownJob.slot
  let free := ((List.range (slots.length + 1)).map (· + 1)).find? fun n => !slots.contains n
  let reused := (done.map KnownJob.slot).foldl (fun (m : Option Nat) n =>
    match m with
    | some m => some (min m n)
    | none => some n) none
  let slot := match reused, free with
    | some a, some b => min a b
    | some a, none => a
    | none, b => b.getD 1
  let known := s.known.filter fun k => k.slot ≠ slot
  { s with known := ⟨slot, number, false⟩ :: known }

def stateText (s : State) (k : KnownJob) : String :=
  match jobOf? s k with
  | none => "Done"
  | some j =>
    if s.world.now < j.ends then "Running"
    else if j.status = 0 then "Done"
    else if j.status > 128 then (signalText? (j.status - 128)).getD ("Done(" ++ toString j.status ++ ")")
    else "Done(" ++ toString j.status ++ ")"

/-- A job as it is listed. -/
def jobLine (s : State) (k : KnownJob) (withNumber : Bool) : Text :=
  let mark := match s.known with
    | a :: b :: _ => if k.slot = a.slot then "+" else if k.slot = b.slot then "-" else " "
    | _ => "+"
  let front := "[" ++ toString k.slot ++ "] " ++ mark ++ " " ++
    (if withNumber then toString (k.number + State.mainNumber) ++ " " else "") ++ stateText s k
  let fill := 33 - front.length
  (front ++ String.ofList (List.replicate fill ' ') ++ "\n").toList

/-- The job that a text such as `%1` names. -/
def namedJob? (s : State) (t : Text) : Option KnownJob :=
  match t with
  | '%' :: r =>
    if r.isEmpty || r = ['%'] || r = ['+'] then s.known.head?
    else if r = ['-'] then s.known.tail.head?
    else (digits? r).bind fun n => s.known.find? fun k => k.slot == n
  | r => (Arithmetic.small? r).bind fun n => s.known.find? fun k => k.number + State.mainNumber == n

def noSuchJob (t : Text) (s : State) : State := s.refuse ("No such job: ".toList ++ t)

def jobs (args : List Text) (s : State) : State :=
  withOptions "lp" args s fun g s =>
    let listed := if g.operands.isEmpty then s.known
      else g.operands.filterMap (namedJob? s)
    match g.operands.find? fun t => (namedJob? s t).isNone with
    | some t => noSuchJob t s
    | none =>
      let show' := fun (s : State) (k : KnownJob) =>
        if g.has 'p' then s.out (ofNat (k.number + State.mainNumber) ++ ['\n'])
        else
          let known := if isRunning s k then s.known else s.known.filter fun j => j.slot ≠ k.slot
          { s.out (jobLine s k (g.has 'l')) with known }
      (listed.foldl show' s).withStatus 0

/-- The first signal with an action that reaches the shell before a time. -/
def interruption? (s : State) (until' : Nat) : Option Signal :=
  s.world.signals.find? fun x => x.target == s.process && decide (x.time < until') &&
    (s.traps.lookup x.number).any fun a => !a.isEmpty

/-- Wait until a job ends. A signal may come in between; its number is given then. -/
def waitFor (j : Job) (s : State) : Option Nat × State :=
  match interruption? s j.ends with
  | some x => (some x.number, s.waitUntil x.time)
  | none => (none, s.waitUntil j.ends)

def markWaited (k : KnownJob) (s : State) : State :=
  { s with known := s.known.map fun x => if x.slot = k.slot then { x with waited := true } else x }

def waitEach : List KnownJob → State → State
  | [], s => s.withStatus 0
  | k :: ks, s =>
    match jobOf? s k with
    | none => waitEach ks s
    | some j =>
      match waitFor j s with
      | (some signal, s) => s.withStatus (128 + signal)
      | (none, s) => waitEach ks (markWaited k s)

def waitNamed : List Text → State → State
  | [], s => s
  | t :: ts, s =>
    let isName := t.head? = some '%'
    if !isName && (Arithmetic.small? t).isNone then illegalNumber t s
    else match namedJob? s t with
      | none => if isName then noSuchJob t s else waitNamed ts (s.withStatus 127)
      | some k =>
        match jobOf? s k with
        | none => waitNamed ts (s.withStatus 127)
        | some j =>
          match waitFor j s with
          | (some signal, s) => s.withStatus (128 + signal)
          | (none, s) =>
            let s := if k.waited || j.status ≤ 128 then s else tellSignal (j.status - 128) s
            waitNamed ts ((markWaited k s).withStatus j.status)

/-- Wait for the given jobs, or for all. -/
def wait (args : List Text) (s : State) : State :=
  withOptions "" args s fun g s =>
    if g.operands.isEmpty then waitEach s.known.reverse s else waitNamed g.operands (s.withStatus 127)

/-- Drop what a job would still do. -/
def silence (number : Nat) (s : State) : State :=
  let now := s.world.now
  let writes := s.world.writes.filter fun w => !(w.job == number && w.time > now)
  let ours := fun (x : TimedChange) => !(x.job == number && x.time > now)
  { s with world := { s.world with
      writes, coming := s.world.coming.filter ours, made := s.world.made.filter ours } }

/-- End a job before its time. -/
def endJob (job : Job) (status : Nat) (s : State) : State :=
  let now := s.world.now
  let s := silence job.number s
  let jobs := s.world.jobs.map fun j =>
    if j.number = job.number then { j with ends := now, status } else j
  { s with world := { s.world with jobs } }

/-- Send a signal on its way. -/
def post (signal target : Nat) (s : State) : State :=
  let x : Signal := ⟨s.world.now, target, signal⟩
  { s with world := { s.world with signals := s.world.signals ++ [x] } }.spend 0

def noSuchProcess (s : State) : State := (s.complain "No such process\n").withStatus 1

def sendTo (signal : Nat) (target : Text) (s : State) : State :=
  if target.head? = some '%' then
    match namedJob? s target with
    | some _ => noSuchProcess s
    | none => noSuchJob target s
  else
    let digits := if target.head? = some '-' then target.tail else target
    match Arithmetic.small? digits with
    | none => illegalNumber digits s
    | some number =>
      if number = s.process || s.parents.contains number then
        if signal = 0 then s else post signal number s
      else if number = 0 then if signal = 0 then s else post signal State.mainNumber s
      else if number = 1 then s
      else match s.world.jobs.find? fun j => j.number + State.mainNumber = number with
        | some j =>
          if j.ends ≤ s.world.now then noSuchProcess s
          else if signal = 0 then s
          else if j.heeds.contains signal && signal ≠ 9 then post signal number s
          else if State.isHarmless signal then s
          else endJob j (128 + signal) s
        | none => noSuchProcess s

def usage : String :=
  "Usage: kill [-s sigspec | -signum | -sigspec] [pid | job]... or\nkill -l [exitstatus]"

def listSignals (operands : List Text) (s : State) : State :=
  match operands with
  | [] =>
    (s.out ("0\n" ++ String.join ((signalNames.drop 1).map (· ++ "\n"))).toList).withStatus 0
  | t :: _ =>
    match Arithmetic.small? t with
    | none => illegalNumber t s
    | some n =>
      let n := if n > 128 then n - 128 else n
      if 0 < n && n < signalNames.length then
        (s.out (signalName n ++ "\n").toList).withStatus 0
      else s.refuse ("invalid signal number or exit status: ".toList ++ t)

def kill (args : List Text) (s : State) : State :=
  let send := fun (signal : Nat) (targets : List Text) (s : State) =>
    if targets.isEmpty then s.abandon usage
    else forEach targets (s.withStatus 0) (sendTo signal)
  match args with
  | [] => s.abandon usage
  | first :: rest =>
    let direct := match first with
      | '-' :: name => if name.isEmpty then none else signal? 1 name
      | _ => none
    match direct with
    | some signal => send signal rest s
    | none =>
      withOptions "ls:" args s fun g s =>
        match g.value? 's' with
        | some name =>
          match signal? 1 name with
          | none => s.refuse ("invalid signal number or name: ".toList ++ name)
          | some signal => if g.has 'l' then s.abandon usage else send signal g.operands s
        | none => if g.has 'l' then listSignals g.operands s else send 15 g.operands s

end Exemplar.Shell.Builtin
