import Exemplar.Files.Layout
import Exemplar.Session.Frame
import Exemplar.Shell.Arithmetic
import Exemplar.Shell.Reader
import Exemplar.Shell.Setting

/-!
# The state of a shell

A shell has variables and streams of its own, and shares a world with its children: the
time, the files, the pipes and what has been written. Time is counted in nanoseconds and
only moves when something is done; each shell and each job in the background has its own
clock.
-/
namespace Exemplar.Shell

/-- What a numbered stream of a command is tied to. -/
inductive Channel
  | output (stream : Session.Stream)
  | null
  /-- Never takes anything. -/
  | full
  /-- Gives zeros without end. -/
  | zeros
  | pipe (number : Nat)
  | source (number : Nat)
  | file (place : Files.Place)
  deriving DecidableEq, Repr

/-- Input that arrives over time. -/
structure Source where
  /-- Pieces with the time of their arrival. -/
  pieces : List (Nat × Text)
  /-- When the input ends, if it ever does. -/
  closes : Option Nat
  /-- The file that it comes from. -/
  place : Option Files.Place

/-- What has been written to a pipe, latest first. -/
structure Pipe where
  pieces : List (Nat × Text)
  count : Nat

/-- Something written to an output of the session. -/
structure Write where
  time : Nat
  job : Nat
  stream : Session.Stream
  text : Text

/-- A command that runs in the background. -/
structure Job where
  number : Nat
  ends : Nat
  status : Nat
  /-- Outputs of the session that stay open as long as it runs. -/
  holds : List Session.Stream
  /-- The same for pipes. -/
  pipes : List Nat
  /-- Signals that do not simply end it. -/
  heeds : List Nat

/-- A signal on its way to a process. -/
structure Signal where
  time : Nat
  target : Nat
  number : Nat
  deriving DecidableEq, Repr

/-- What is known of a file beside its content. -/
structure Attribute where
  permissions : Nat
  /-- When it was changed; files that were there from the beginning are oldest. -/
  changed : Nat

/-- What can happen to a file. -/
inductive Change
  | put (place : Files.Place) (entry : Files.Entry)
  /-- An empty file is there if there was none. -/
  | create (place : Files.Place)
  | append (place : Files.Place) (t : Text)
  | remove (place : Files.Place)
  | attribute (place : Files.Place) (a : Attribute)

/-- A change that a job in the background makes. -/
structure TimedChange where
  time : Nat
  job : Nat
  change : Change

structure World where
  now : Nat
  /-- Nothing is done from this time on. -/
  horizon : Nat
  tree : Files.Tree
  attributes : List (Files.Place × Attribute)
  pipes : List (Nat × Pipe)
  sources : List (Nat × Source)
  /-- Latest first. -/
  writes : List Write
  jobs : List Job
  /-- Outputs that the main shell gave up, with the time. -/
  closed : List (Session.Stream × Nat)
  /-- When the main shell is killed. -/
  killed : Option Nat
  signals : List Signal
  /-- Changes by jobs that are still to come, in the order of time. -/
  coming : List TimedChange
  /-- Changes made by the job that this is the world of. -/
  made : List TimedChange
  /-- The next number for a pipe, a source or a job. -/
  fresh : Nat

namespace World

def attributeAt (w : World) (place : Files.Place) : Attribute :=
  match w.attributes.lookup place with
  | some a => a
  | none =>
    match w.tree.entryAt? place with
    | some .directory => ⟨0o755, 0⟩
    | some (.link _) => ⟨0o777, 0⟩
    | some .device => ⟨0o666, 0⟩
    | _ => ⟨if List.isPrefixOf (Files.Layout.names "usr/bin") place then 0o755 else 0o644, 0⟩

def put (place : Files.Place) (e : Files.Entry) (w : World) : World :=
  let others := if (w.tree.entryAt? place).isNone then w.tree.entries
    else w.tree.entries.filter fun e => e.1 ≠ place
  { w with tree := { w.tree with entries := (place, e) :: others } }

def change (c : Change) (w : World) : World :=
  match c with
  | .put place e => w.put place e
  | .create place =>
    if (w.tree.entryAt? place).isNone then w.put place (.file []) else w
  | .append place t =>
    match w.tree.entryAt? place with
    | some (.file bytes) => w.put place (.file (bytes ++ toBytes t))
    | _ => w
  | .remove place =>
    let entries := w.tree.entries.filter fun e => !place.isPrefixOf e.1
    let attributes := w.attributes.filter fun e => !place.isPrefixOf e.1
    { w with tree := { w.tree with entries }, attributes }
  | .attribute place a =>
    { w with attributes := (place, a) :: w.attributes.filter fun e => e.1 ≠ place }

/-- Make the changes of jobs whose time has come. -/
def catchUp (w : World) : World :=
  match w.coming.takeWhile fun x => x.time ≤ w.now with
  | [] => w
  | due => due.foldl (fun w x => w.change x.change) { w with coming := w.coming.drop due.length }

end World

/-- What comes after a command. -/
inductive Flow
  | next
  | break (levels : Nat)
  | continue (levels : Nat)
  | return
  /-- The command was refused; unless somebody takes notice, the shell ends. -/
  | error
  | exit
  /-- The command does not come to an end. -/
  | stop
  deriving DecidableEq, Repr

structure Variable where
  value : Option Text
  exported : Bool
  constant : Bool
  deriving DecidableEq, Repr

/-- What a function puts back at its end. -/
inductive Kept
  | variable (name : Text) (before : Option Variable)
  | settings (before : List Setting)

/-- A job as the shell that began it knows it. -/
structure KnownJob where
  /-- The number by which the shell calls it. -/
  slot : Nat
  number : Nat
  waited : Bool
  deriving DecidableEq, Repr

/-- How far `getopts` has come: the next argument, and the letters taken from it. -/
structure OptionPlace where
  index : Nat
  letters : Option Nat
  deriving DecidableEq, Repr

structure State where
  bindings : List (Text × Variable)
  functions : List (Text × Command)
  aliases : List (Text × Text)
  arguments : List Text
  name : Text
  directory : Files.Place
  /-- The path by which the directory was reached. -/
  path : Text
  channels : List (Nat × Channel)
  settings : List Setting
  /-- Permissions that new files do not get. -/
  mask : Nat
  /-- Actions by signal; zero stands for the end of the shell, and an empty action ignores
  the signal. -/
  traps : List (Nat × Text)
  /-- Signals that came and are not answered yet. -/
  due : List Nat
  /-- What functions and commands put back at their end, innermost first. -/
  saved : List (List Kept)
  optionPlace : OptionPlace
  /-- Programs that were found by name. -/
  hashed : List Text
  status : Nat
  /-- The status of the last command inside of a word. -/
  innerStatus : Nat
  /-- The status in front of the action for a signal that is being carried out. -/
  statusBefore : Option Nat
  /-- The line of the command, which messages tell. -/
  line : Nat
  /-- The line up to which the script has been read. -/
  readLine : Nat
  /-- The same for the input of the shell. -/
  inputLine : Nat
  /-- What messages name beside the shell. -/
  command : Option Text
  flow : Flow
  /-- Loops around the command, inside of the function. -/
  loops : Nat
  /-- Functions around the command. -/
  depth : Nat
  /-- The number by which the shell knows itself. Its children know it by the same. -/
  number : Nat
  /-- The number of the process itself. -/
  process : Nat
  /-- The processes that began this one, nearest first. -/
  parents : List Nat
  /-- The next program takes the place of this process. -/
  inPlace : Bool
  /-- The signal that ended the shell. -/
  killedBy : Option Nat
  /-- The number of the job this shell runs in; zero in the main shell. -/
  job : Nat
  lastJob : Option Nat
  /-- Jobs that the shell began, latest first. -/
  known : List KnownJob
  /-- Jobs that the shell began, with the state in which they began. -/
  begun : List (Nat × Command × State)
  world : World

namespace State

/-- The number by which the main shell is known. -/
def mainNumber : Nat := 20000

/-- What a small step takes. -/
def smallCost : Nat := 10000

/-- What it takes to begin another process. -/
def processCost : Nat := 400000

/-- How many pieces a pipe takes before its writer is stopped. -/
def pipeLimit : Nat := 20000

def goesOn (s : State) : Bool := s.flow == .next

def withStatus (n : Nat) (s : State) : State := { s with status := n }

def withFlow (f : Flow) (s : State) : State := { s with flow := f }

def isOn (s : State) (x : Setting) : Bool := s.settings.contains x

/-- Signals that do nothing unless there is an action for them. -/
def isHarmless (signal : Nat) : Bool := [0, 17, 18, 23, 28].contains signal

/-- End the shell by a signal. -/
def die (time signal : Nat) (s : State) : State :=
  let killed := if s.process = mainNumber then some (s.world.killed.getD time) else s.world.killed
  ({ s with killedBy := some signal, world := { s.world with now := time, killed } }.withStatus
    (128 + signal)).withFlow .exit

/-- Whether a signal ends the shell. -/
def isFatal (s : State) (signal : Nat) : Bool :=
  signal == 9 || ((s.traps.lookup signal).isNone && !isHarmless signal)

/-- The first signal on its way that will end the shell. -/
def fatal? (s : State) : Option Signal :=
  s.world.signals.find? fun x => x.target == s.process && s.isFatal x.number

/-- Let the shell notice the signals that have come: each is answered later, ignored, or the
end of the shell. -/
def notice (s : State) : State :=
  let hasCome := fun (x : Signal) => x.target == s.process && decide (x.time ≤ s.world.now)
  let come := s.world.signals.filter hasCome
  if come.isEmpty then s
  else
    let signals := s.world.signals.filter fun x => !hasCome x
    come.foldl (fun s x =>
      if s.killedBy.isSome then s
      else if s.isFatal x.number then s.die x.time x.number
      else match s.traps.lookup x.number with
        | some (_ :: _) => { s with due := s.due ++ [x.number] }
        | _ => s) { s with world := { s.world with signals } }

/-- What becomes of a shell when a child does not come to an end. -/
def stopped (s : State) : State :=
  if s.killedBy.isSome then s
  else match s.fatal? with
  | some x => s.die x.time x.number
  | none => s.withFlow .stop

/-- Let time pass. -/
def spend (n : Nat) (s : State) : State :=
  let s' := { s with world := { s.world with now := s.world.now + n }.catchUp }.notice
  if s'.world.horizon ≤ s'.world.now then s'.withFlow .stop else s'

def waitUntil (t : Nat) (s : State) : State := s.spend (t - s.world.now)

def fresh (s : State) : Nat × State :=
  (s.world.fresh, { s with world := { s.world with fresh := s.world.fresh + 1 } })

def channel (s : State) (number : Nat) : Option Channel := s.channels.lookup number

def setChannel (number : Nat) (c : Channel) (s : State) : State :=
  { s with channels := (number, c) :: s.channels.filter fun e => e.1 ≠ number }

def closeChannel (number : Nat) (s : State) : State :=
  { s with channels := s.channels.filter fun e => e.1 ≠ number }

def addSource (x : Source) (s : State) : Nat × State :=
  let (n, s) := s.fresh
  (n, { s with world := { s.world with sources := (n, x) :: s.world.sources } })

/-- A source with a text that is there at once. -/
def addText (t : Text) (place : Option Files.Place) (s : State) : Nat × State :=
  s.addSource ⟨if t.isEmpty then [] else [(s.world.now, t)], some s.world.now, place⟩

def addPipe (s : State) : Nat × State :=
  let (n, s) := s.fresh
  (n, { s with world := { s.world with pipes := (n, ⟨[], 0⟩) :: s.world.pipes } })

/-- What a pipe holds, in order; the pipe is gone then. -/
def takePipe (number : Nat) (s : State) : List (Nat × Text) × State :=
  ((match s.world.pipes.lookup number with
      | some p => p.pieces.reverse
      | none => []),
    { s with world := { s.world with pipes := s.world.pipes.filter fun e => e.1 ≠ number } })

def fileAt (s : State) (place : Files.Place) : Text :=
  match s.world.tree.entryAt? place with
  | some (.file bytes) => ofBytes bytes
  | _ => []

def attributeAt (s : State) (place : Files.Place) : Attribute := s.world.attributeAt place

/-- Change a file. What a job does is kept, so that others see it in time. -/
def change (c : Change) (s : State) : State :=
  let w := s.world.change c
  let made := if s.job = 0 then w.made else ⟨w.now, s.job, c⟩ :: w.made
  { s with world := { w with made } }

def setAttribute (place : Files.Place) (a : Attribute) (s : State) : State :=
  s.change (.attribute place a)

def putEntry (place : Files.Place) (e : Files.Entry) (s : State) : State :=
  let full := match e with
    | .directory => 0o777
    | _ => 0o666
  let permissions := if (s.world.tree.entryAt? place).isNone then full - (full &&& s.mask)
    else (s.attributeAt place).permissions
  (s.change (.put place e)).setAttribute place ⟨permissions, s.world.now + 1⟩

def putFile (place : Files.Place) (t : Text) (s : State) : State :=
  s.putEntry place (.file (toBytes t))

/-- Make an empty file where there is none. -/
def createFile (place : Files.Place) (s : State) : State :=
  if (s.world.tree.entryAt? place).isSome then s
  else (s.change (.create place)).setAttribute place
    ⟨0o666 - (0o666 &&& s.mask), s.world.now + 1⟩

/-- Add to the end of a file. -/
def appendFile (place : Files.Place) (t : Text) (s : State) : State :=
  (s.change (.append place t)).setAttribute place
    { s.attributeAt place with changed := s.world.now + 1 }

/-- Remove what is at a place and below it. -/
def removeEntry (place : Files.Place) (s : State) : State := s.change (.remove place)

/-- Where the first name of a path is looked for. -/
def startOf (s : State) (path : Text) : Files.Place :=
  if path.head? = some '/' then [] else s.directory

def resolve (s : State) (path : Text) : Except Files.SystemError Files.Tree.Resolved :=
  match Files.Tree.flaw? path with
  | some e => .error e
  | none =>
    s.world.tree.resolveFrom Files.Tree.linkLimit (s.startOf path) (Files.Tree.steps path)

/-- The directory that holds what a path names, and the name. -/
def parentOf? (s : State) (path : Text) : Option (Files.Place × Text) :=
  let names := (Path.parts path).filter fun c => !c.isEmpty
  match names.getLast? with
  | none => none
  | some last =>
    match s.world.tree.resolveFrom Files.Tree.linkLimit (s.startOf path) names.dropLast with
    | .ok ⟨place, .directory⟩ => some (place, last)
    | _ => none

/-- What a path names, without following a link at its end. -/
def resolveLink (s : State) (path : Text) : Except Files.SystemError Files.Tree.Resolved :=
  match s.resolve path, s.parentOf? path with
  | .error .nameTooLong, _ => .error .nameTooLong
  | found, some (place, name) =>
    if name = Path.dot || name = Path.dotDot || path.getLast? = some '/' then found
    else match s.world.tree.entryAt? (place ++ [name]) with
      | some e => .ok ⟨place ++ [name], e⟩
      | none => .error .notFound
  | found, none => found

/-- The place that a file of this name has or would have. -/
def placeFor? (s : State) (path : Text) : Option Files.Place :=
  match s.resolve path with
  | .ok r => some r.place
  | .error .notFound =>
    match s.parentOf? path with
    | some (place, name) =>
      match s.world.tree.entryAt? (place ++ [name]) with
      | some (.link target) =>
        let start := if target.head? = some '/' then [] else place
        let names := Files.Tree.steps target
        match names.getLast?, s.world.tree.resolveFrom Files.Tree.linkLimit start names.dropLast with
        | some last, .ok ⟨p, .directory⟩ => some (p ++ [last])
        | _, _ => none
      | _ => if path.getLast? = some '/' then none else some (place ++ [name])
    | none => none
  | .error _ => none

/-- Write to what a channel leads to. -/
def writeTo (c : Channel) (t : Text) (s : State) : State :=
  if t.isEmpty then s
  else match c with
    | .output stream =>
      if s.flow == .stop then s
      else
        let w : Write := ⟨s.world.now, s.job, stream, t⟩
        { s with world := { s.world with writes := w :: s.world.writes } }
    | .pipe n =>
      match s.world.pipes.lookup n with
      | none => s
      | some p =>
        let p' : Pipe := ⟨(s.world.now, t) :: p.pieces, p.count + 1⟩
        let pipes := s.world.pipes.map fun e => if e.1 = n then (n, p') else e
        let s' := { s with world := { s.world with pipes } }
        if p'.count > pipeLimit then (s'.withStatus 141).withFlow .exit else s'
    | .file place => s.appendFile place t
    | _ => s

/-- Whether a channel can be written to. -/
def takes : Channel → Bool
  | .full => false
  | .zeros => true
  | .source _ => false
  | _ => true

/-- Whether a numbered stream can be written to. -/
def canWrite (s : State) (number : Nat) : Bool :=
  match s.channel number with
  | some c => takes c
  | none => false

/-- Write to a numbered stream; nothing happens if it is closed. -/
def write (number : Nat) (t : Text) (s : State) : State :=
  match s.channel number with
  | some c => s.writeTo c t
  | none => s

def out (t : Text) (s : State) : State := s.write 1 t

def err (t : Text) (s : State) : State := s.write 2 t

/-- A complaint of the shell itself. -/
def complain (message : String) (s : State) : State :=
  let who := match s.command with
    | some c => c ++ ": ".toList
    | none => []
  s.err (s.name ++ (": " ++ toString s.line ++ ": ").toList ++ who ++
    inBytes message.toList ++ ['\n'])

/-- The same for a message that holds bytes. -/
def complainBytes (message : Text) (s : State) : State :=
  let who := match s.command with
    | some c => c ++ ": ".toList
    | none => []
  s.err (s.name ++ (": " ++ toString s.line ++ ": ").toList ++ who ++ message ++ ['\n'])

/-- A complaint that leaves a status. -/
def fail (status : Nat) (message : String) (s : State) : State :=
  (s.complain message).withStatus status

/-- A complaint that is a refusal. -/
def refuse (message : Text) (s : State) : State :=
  ((s.complainBytes message).withStatus 2).withFlow .error

def abandon (message : String) (s : State) : State := s.refuse (inBytes message.toList)

/-- Outputs of the session that are open. -/
def held (s : State) : List Session.Stream :=
  [Session.Stream.out, .err].filter fun stream => s.channels.any fun c => c.2 == .output stream

/-- Note which outputs are open no longer. -/
def noteClosed (s before : State) : State :=
  if s.job ≠ 0 then s
  else
    let lost := before.held.filter fun stream => !s.held.contains stream
    { s with world := { s.world with
        closed := s.world.closed ++ lost.map fun stream => (stream, s.world.now) } }

def binding? (s : State) (name : Text) : Option Variable := s.bindings.lookup name

def value? (s : State) (name : Text) : Option Text := (s.bindings.lookup name).bind Variable.value

def value (s : State) (name : Text) : Text := (s.value? name).getD []

def replace {α : Type} (key : Text) (a : α) : List (Text × α) → List (Text × α)
  | [] => [(key, a)]
  | e :: es => if e.1 == key then (key, a) :: es else e :: replace key a es

def bind (name : Text) (v : Variable) (s : State) : State :=
  { s with bindings := replace name v s.bindings }

/-- What follows from the new value of a variable that the shell itself looks at. -/
def heed (name value : Text) (s : State) : State :=
  if name = "OPTIND".toList then
    match Arithmetic.small? value with
    | some n => { s with optionPlace := ⟨max n 1, none⟩ }
    | none => s.refuse ("Illegal number: ".toList ++ value)
  else if name = "PATH".toList then { s with hashed := [] }
  else s

def isConstant (s : State) (name : Text) : Bool :=
  match s.binding? name with
  | some v => v.constant
  | none => false

def readOnlyMessage (name : Text) : Text := name ++ ": is read only".toList

/-- Give a variable a value. -/
def assign (name value : Text) (s : State) : State :=
  if !isName name then s.refuse (name ++ ": bad variable name".toList)
  else
    match s.binding? name with
    | some v =>
      if v.constant then s.refuse (readOnlyMessage name)
      else (s.bind name { v with
        value := some value, exported := v.exported || s.isOn .allexport }).heed name value
    | none =>
      (s.bind name ⟨some value, s.isOn .allexport, false⟩).heed name value

/-- Change a variable, which may be new. -/
def adjust (name : Text) (f : Variable → Variable) (s : State) : State :=
  s.bind name (f ((s.binding? name).getD ⟨none, false, false⟩))

def unassign (name : Text) (s : State) : State :=
  if !isName name then s.refuse (name ++ ": bad variable name".toList)
  else if s.isConstant name then s.refuse (readOnlyMessage name)
  else ({ s with bindings := s.bindings.filter fun e => e.1 ≠ name }).heed name []

/-- Put back what was kept. -/
def restore (s : State) : Kept → State
  | .settings before => { s with settings := before }
  | .variable name before =>
    let others := s.bindings.filter fun e => e.1 ≠ name
    match before with
    | some v => { s with bindings := replace name v s.bindings }.heed name (v.value.getD [])
    | none => { s with bindings := others }.heed name []

def setSource (number : Nat) (x : Source) (s : State) : State :=
  let sources := s.world.sources.map fun e => if e.1 = number then (number, x) else e
  { s with world := { s.world with sources } }

/-- The source behind a stream. A stream without one is at its end. -/
def source? (s : State) (stream : Nat) : Option (Nat × Source) :=
  match s.channel stream with
  | some (.source n) => (s.world.sources.lookup n).map fun x => (n, x)
  | _ => none

/-- The next piece of the input; nothing at its end. -/
def readPiece (stream : Nat) (s : State) : Option Text × State :=
  match s.source? stream with
  | none => (none, s)
  | some (n, x) =>
    match x.pieces with
    | (t, piece) :: rest => (some piece, (s.setSource n { x with pieces := rest }).waitUntil t)
    | [] =>
      match x.closes with
      | some t => (none, s.waitUntil t)
      | none => (none, s.withFlow .stop)

/-- All of the input that is left. -/
def readAll (stream : Nat) (s : State) : Text × State :=
  match s.source? stream with
  | none => ([], s)
  | some (n, x) =>
    let t := x.pieces.flatMap Prod.snd
    let s' := s.setSource n { x with pieces := [] }
    match x.closes with
    | some closes => (t, s'.waitUntil closes)
    | none => (t, s'.withFlow .stop)

/-- Put something back in front of the input. -/
def unread (stream : Nat) (t : Text) (s : State) : State :=
  match s.source? stream with
  | some (n, x) =>
    if t.isEmpty then s else s.setSource n { x with pieces := (s.world.now, t) :: x.pieces }
  | none => s

end State

end Exemplar.Shell
