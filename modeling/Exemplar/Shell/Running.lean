import Exemplar.Session.Live
import Exemplar.Shell.Evaluation

/-!
# Processes of a session

A process is a shell that reads its script from its input, or a program that runs by
itself. When input comes, all commands that are complete are carried out, and what they
write is laid out along the time. What a session has not taken yet stays for later.
-/
namespace Exemplar.Shell
open Text

/-- What a process does with its input. -/
inductive Task
  /-- Carries it out, as far as it is complete. -/
  | commands (r : Reader)
  /-- Carries out something else, which may read it. -/
  | shell (x : Start)
  | program (name : String) (args : List Text)

structure Running where
  task : Task
  /-- The state in front of what is not done yet. -/
  state : State
  /-- Everything sent so far, with the times, for a task that reads it itself. -/
  input : List (Nat × Text)
  now : Nat
  /-- When the process ended, if it did. -/
  ended : Option Nat
  /-- Events that were taken. -/
  taken : Nat
  /-- Events that were not taken yet. -/
  pending : List (Nat × Session.Event)

namespace Running

/-- What a run of commands came to. -/
structure Progress where
  task : Task
  /-- The state in front of the rest of the task. -/
  state : State
  /-- The state with all that has been done. -/
  reached : State
  ended : Bool

/-- Carry out the complete commands of a script. -/
def advance : Nat → Reader → State → Progress
  | 0, r, s => ⟨.commands r, s, s.withFlow .stop, false⟩
  | fuel + 1, r, s =>
    let ended := fun (s : State) =>
      let s := Evaluation.ending Evaluation.limit s
      (⟨.commands r, s, s, true⟩ : Progress)
    match r.next s.aliases with
    | .error .unfinished => ⟨.commands r, s, s, false⟩
    | .error (.wrong line message) => ended ({ s with line }.abandon message)
    | .ok (.ended, r') => ⟨.commands r', s, s, false⟩
    | .ok (.blank, r') =>
      advance fuel r' (Evaluation.echoInput (Evaluation.consumed r r') s)
    | .ok (.command c, r') =>
      let s := Evaluation.echoInput (Evaluation.consumed r r') s
      if s.isOn .noexec then advance fuel r' s
      else
        let s' := Evaluation.run Evaluation.limit false c
          { s with readLine := r'.line, inputLine := r'.line }
        match s'.flow with
        | .stop => ⟨.commands r, s, s', false⟩
        | .next => advance fuel r' s'
        | _ => ended s'

/-- Run something that reads its input itself. -/
def runWhole (task : Task) (input : List (Nat × Text)) (s : State) (f : State → State) :
    Progress :=
  let (n, s') := s.addSource ⟨input, none, none⟩
  let reached := f (s'.setChannel 0 (.source n))
  ⟨task, s, reached, reached.flow ≠ .stop⟩

def perform (p : Running) (horizon : Nat) : Progress :=
  let s := { p.state with world := { p.state.world with horizon } }
  match p.task with
  | .commands r =>
    advance (r.rest.length + 1) r
      { s with world := { s.world with now := max s.world.now p.now } }
  | .shell x => runWhole p.task p.input s (Evaluation.shell Evaluation.limit x)
  | .program name args => runWhole p.task p.input s (Evaluation.program Evaluation.limit name args)

abbrev Timed := Nat × Session.Event

def dataEvents (s : State) : List Timed :=
  let ordered := s.world.writes.reverse.mergeSort fun a b => a.time ≤ b.time
  ordered.map fun w => (w.time, .data w.stream (toBytes w.text))

/-- When a process is over: at its own end, or when it is killed. -/
def endOf (s : State) (ended : Option Nat) : Option Nat :=
  match ended, s.world.killed with
  | some a, some b => some (min a b)
  | some a, none => some a
  | none, b => b

/-- When an output closes: nobody holds it open any more. -/
def closing (s : State) (ended : Option Nat) (stream : Session.Stream) :
    Option Timed :=
  let own := match s.world.closed.lookup stream with
    | some t => some t
    | none => endOf s ended
  own.map fun t =>
    let jobs := s.world.jobs.filter fun j => j.holds.contains stream
    (jobs.foldl (fun t j => max t j.ends) t, .closed stream)

/-- All events of a process in the order of time. -/
def timeline (s : State) (ended : Option Nat) : List Timed :=
  let closings := [closing s ended .out, closing s ended .err].filterMap id
  (dataEvents s ++ closings).mergeSort fun a b => a.1 ≤ b.1

/-- Within this time, data of one output is read at once. -/
def readingTime : Nat := 1000000

/-- How much is read at once. -/
def readingSize : Nat := 4096

/-- Events that are taken at once: how many there are, and the one they amount to. -/
structure Batch where
  count : Nat
  time : Nat
  event : Session.Event

/-- Put data of the same output together. -/
def gather : List Timed → List Batch
  | [] => []
  | (t, e) :: es =>
    match e, gather es with
    | .data a x, ⟨n, u, .data b y⟩ :: more =>
      if a = b && u ≤ t + readingTime && x.length + y.length ≤ readingSize then
        ⟨n + 1, u, .data a (x ++ y)⟩ :: more
      else ⟨1, t, e⟩ :: ⟨n, u, .data b y⟩ :: more
    | e, more => ⟨1, t, e⟩ :: more

def receive (p : Running) (t : Text) : Running :=
  match p.task with
  | .commands r => { p with task := .commands (r.append t) }
  | _ => { p with input := p.input ++ [(p.now, t)] }

/-- Whether a process is over by now. -/
def isOver (p : Running) : Bool :=
  match endOf p.state p.ended with
  | some t => t ≤ p.now
  | none => false

/-- What passes between two runs of a session. -/
def pauseTime : Nat := 300000

/-- What came between two runs. -/
def leftOver (p : Running) : Session.Heard Running :=
  let p := { p with now := p.now + pauseTime }
  let waiting := p.pending.takeWhile fun e => e.1 ≤ p.now
  ⟨waiting.map Prod.snd, fun n =>
    { p with taken := p.taken + n, pending := p.pending.drop n }⟩

def send (p : Running) (input : Text) : Session.Written × Running :=
  if p.isOver then (.brokenPipe, p) else (.ok, p.receive (inBytes input))

/-- What comes while a run waits, and what is left of it once some has been taken. -/
def listen (p : Running) (limit : Duration) : Session.Heard Running :=
  let last := p.now + limit.nanoseconds
  let progress := p.perform last
  let ended := if progress.ended then some progress.reached.world.now else none
  let events := (timeline progress.reached ended).drop p.taken
  let batches := gather (events.takeWhile fun e => e.1 ≤ last)
  let resume := fun n =>
    let seen := batches.take n
    let count := seen.foldl (fun n b => n + b.count) 0
    { p with
      task := progress.task
      state := progress.state
      now := seen.foldl (fun now b => max now b.time) p.now
      ended
      taken := p.taken + count
      pending := events.drop count }
  ⟨batches.map Batch.event, resume⟩

/-- Nothing is seen of a process that was stopped, so all that counts is when it was over. -/
def stop (p : Running) (grace : Duration) : Running :=
  let last := p.now + grace.nanoseconds
  let ended := (endOf p.state p.ended).elim last (min last)
  { p with now := max p.now ended, ended := some ended }

def wait (p : Running) (d : Duration) : Running := { p with now := p.now + d.nanoseconds }

/-- A tree whose names are kept in bytes. -/
def bytesOfTree (tree : Files.Tree) : Files.Tree :=
  ⟨tree.entries.map fun e =>
    (e.1.map inBytes, match e.2 with
      | .link target => .link (inBytes target)
      | e => e), tree.home⟩

def world (tree : Files.Tree) : World where
  now := 0
  horizon := 0
  tree := bytesOfTree tree
  attributes := []
  pipes := []
  sources := [(0, ⟨[], none, none⟩)]
  writes := []
  jobs := []
  closed := []
  killed := none
  signals := []
  coming := []
  made := []
  fresh := 1

/-- Variables that the environment gives. -/
def environment : List (Text × Variable) :=
  [("HOME".toList, ⟨some "/root".toList, true, false⟩),
    ("PATH".toList, ⟨some Builtin.standardPath, true, false⟩)]

/-- The state of a process before it has begun, as a child of `owner`. -/
def initial (tree : Files.Tree) (owner : Nat) (name : Text) : State where
  bindings := environment
  functions := []
  aliases := []
  arguments := []
  name := name
  directory := tree.home
  path := Builtin.pathOf tree.home
  channels := [(0, .source 0), (1, .output .out), (2, .output .err)]
  settings := []
  mask := 0o022
  traps := []
  due := []
  saved := []
  optionPlace := ⟨1, none⟩
  hashed := []
  status := 0
  innerStatus := 0
  statusBefore := none
  line := 1
  readLine := 1
  inputLine := 1
  command := none
  flow := .next
  loops := 0
  depth := 0
  number := State.mainNumber
  process := State.mainNumber
  parents := [owner]
  inPlace := false
  killedBy := none
  job := 0
  lastJob := none
  known := []
  begun := []
  world := world tree

/-- Programs that start others. -/
def starters : List String := ["env", "find", "nice", "nohup", "setsid", "stdbuf", "timeout", "xargs"]

/-- Whether a program of this name can be started. -/
def isProgram (name : String) : Bool :=
  Evaluation.shells.contains name || starters.contains name || (Program.find? name).isSome

/-- The task of a process and its first state, by its program and its arguments. -/
def taskOf (name : String) (args : List Text) (s : State) : Task × State :=
  if Evaluation.shells.contains name then
    match Start.ofArguments s.name args with
    | .error _ => (.program name args, s)
    | .ok x =>
      match x.origin with
      | .input =>
        let s := s.asShell x
        let s := if x.listed then s.out (Setting.listing Setting.all).toList else s
        (.commands (Reader.ofText [] 1 false), s)
      | _ => (.shell x, s)
  else (.program name args, s)

/-- Start the program at a path. -/
def execute (s : State) (path : Text) (args : List Text) : Except Files.SystemError Running :=
  match s.resolve path with
  | .error e => .error e
  | .ok ⟨place, .file _⟩ =>
    let name := String.ofList (place.getLast?.getD [])
    if place.dropLast = Files.Layout.names "usr/bin" && isProgram name then
      let (task, state) := taskOf name args s
      .ok ⟨task, state, [], 0, none, 0, []⟩
    else .error .permissionDenied
  | .ok _ => .error .permissionDenied

/-- Look for a program in directories; whether a file was there that cannot be started. -/
def search (s : State) (name : Text) (args : List Text) :
    Bool → List Text → Except Files.SystemError Running
  | denied, [] => .error (if denied then .permissionDenied else .notFound)
  | denied, d :: ds =>
    match execute s (d ++ '/' :: name) args with
    | .ok p => .ok p
    | .error .permissionDenied => search s name args true ds
    | .error .notFound => search s name args denied ds
    | .error .notADirectory => search s name args denied ds
    | .error e => .error e

def launch (tree : Files.Tree) (owner : Nat) (program : String) (args : List String) :
    Except Files.SystemError Running :=
  let path := inBytes program.toList
  let args := args.map fun a => inBytes a.toList
  let s := initial tree owner path
  if (path :: args).any fun a => a.any (· == '\x00') then .error .endInsideArgument
  else if path.isEmpty then .error .notFound
  else if path.any (· == '/') then execute s path args
  else search s path args false (splitBy (· == ':') Builtin.standardPath)

/-- Processes that `owner` begins on a system with the given files. -/
def system (tree : Files.Tree) (owner : Nat) : Session.System Running where
  launch := launch tree owner
  leftOver := leftOver
  send := send
  listen := listen
  stop := stop
  wait := wait

end Running

end Exemplar.Shell
