import Exemplar.Shell.Call
import Exemplar.Shell.Program.Batch
import Exemplar.Shell.Program.Table
import Exemplar.Shell.Start

/-!
# Carrying out commands

A command changes the state of the shell. Children run with a copy of the state of which
only the world comes back. A job in the background is carried out at once, with a clock of
its own; what it writes carries the time at which it is written.
-/
namespace Exemplar.Shell
open Text

namespace Evaluation

/-- How deep commands may stand inside of each other, and how often a loop may turn. -/
def limit : Nat := 1000000

/-- How many functions may be carried out inside of each other. -/
def depthLimit : Nat := 1000

/-- How long a job in the background is followed. -/
def jobLimit : Nat := 120000000000

/-- A time that never comes. -/
def never : Nat := Number.tenTo 30

def pipesOf (s : State) : List Nat :=
  s.channels.filterMap fun c =>
    match c.2 with
    | .pipe n => some n
    | _ => none

/-- A shell that is ended while a child goes on. -/
def orphaned (child s : State) : State :=
  let ends := if child.flow = .stop then never else child.world.now
  let (n, s) := s.fresh
  let job : Job := ⟨n, ends, 0, child.held, pipesOf child, []⟩
  { s with world := { s.world with jobs := job :: s.world.jobs } }

/-- What a child leaves behind in the shell that started it. -/
def rejoin (parent child : State) : State :=
  let s := { parent with
    world := { child.world with horizon := parent.world.horizon }
    status := child.status
    flow := .next }.spend 0
  let s := if child.flow = .stop then s.stopped else s
  if s.killedBy.isSome then orphaned child s
  else match child.killedBy with
  | some signal =>
    if s.goesOn then (Builtin.tellSignal signal s).withStatus (128 + signal) else s
  | none => s

/-- The state a child begins with. Of the actions for signals, it keeps the empty ones. -/
def child (s : State) : State :=
  let (n, s) := s.fresh
  { s with
    traps := s.traps.filter fun t => t.2.isEmpty
    due := []
    statusBefore := none
    known := []
    begun := []
    readLine := s.inputLine
    process := n + State.mainNumber
    parents := s.process :: s.parents
    inPlace := false }.spend State.processCost

/-- When the last of the jobs ends that hold a pipe open. -/
def closing (s : State) (pipe ends : Nat) : Nat :=
  (s.world.jobs.filter fun j => j.pipes.contains pipe).foldl (fun t j => max t j.ends) ends

/-- When a job ends that has come so far. -/
def endOf (own : State) : Nat := if own.flow = .stop then never else own.world.now

def statusOf (own : State) : Nat :=
  match own.killedBy with
  | some signal => 128 + signal
  | none => own.status

/-- Signals that do not simply end a job. -/
def heeds (own : State) : List Nat := (own.traps.map Prod.fst).filter (· ≠ 0)

/-- Changes in the order of time. -/
def inOrder (changes : List TimedChange) : List TimedChange :=
  changes.mergeSort fun a b => a.time ≤ b.time

/-- Note the program that a command of a pipeline will need. -/
def foresee (c : Command) (s : State) : State :=
  match c with
  | .simple _ _ (w :: _) _ =>
    match Word.plain? w with
    | some name =>
      if isName name && !Builtin.isBuiltin name && (s.functions.lookup name).isNone then
        (Builtin.program s false name).2
      else s
    | none => s
  | _ => s

/-- What a loop does after a turn. -/
inductive Turn
  | on
  | again
  | leave
  deriving DecidableEq, Repr

/-- Take notice of the commands that leave loops. -/
def afterTurn (s : State) : Turn × State :=
  match s.flow with
  | .next => (.on, s)
  | .break n => (.leave, s.withFlow (if n ≤ 1 then .next else .break (n - 1)))
  | .continue n =>
    if n ≤ 1 then (.again, s.withFlow .next) else (.leave, s.withFlow (.continue (n - 1)))
  | _ => (.leave, s)

/-- Leave as many loops as an argument tells, if there are so many. -/
def leave (flow : Nat → Flow) (args : List Text) (s : State) : State :=
  let leaveMany := fun (n : Nat) =>
    let n := min n s.loops
    let s := s.withStatus 0
    if n = 0 then s else s.withFlow (flow n)
  match args with
  | [] => leaveMany 1
  | t :: _ =>
    match Arithmetic.small? t with
    | some 0 => Builtin.illegalNumber t s
    | some n => leaveMany n
    | none => Builtin.illegalNumber t s

/-- Take a status from an argument, if there is one. -/
def withGiven (args : List Text) (s : State) (f : Option Nat → State) : State :=
  match args with
  | [] => f none
  | t :: _ =>
    match Arithmetic.small? t with
    | some n => f (some n)
    | none => Builtin.illegalNumber t s

/-- The path of a file whose commands are carried out, or why there is none. -/
def sourcePath? (s : State) (name : Text) : Option Text :=
  if name.any (· == '/') then some name
  else
    let paths := (splitBy (· == ':') (s.value "PATH".toList)).map fun d =>
      if d.isEmpty then name else d ++ '/' :: name
    paths.find? fun p =>
      match s.resolve p with
      | .ok ⟨_, .file _⟩ => true
      | _ => false

/-- The text of a file as a script. What is no file has no commands. -/
def scriptOf (path : Text) (s : State) : Except String (Text × State) :=
  match Opening.forReading path s with
  | .ok (c, s') =>
    let own := s'.setChannel 0 c
    let (t, read) := own.readAll 0
    .ok (t, { s' with world := read.world, flow := read.flow })
  | .error e => .error e

/-- What of a script was read. -/
def consumed (before after : Reader) : Text :=
  before.rest.take (before.rest.length - after.rest.length)

/-- Show what was read, if that is asked for. -/
def echoInput (t : Text) (s : State) : State :=
  if s.isOn .verbose then s.err t else s

/-- The interpreter that the first line of a script names, and its argument. -/
def interpreter? (t : Text) : Option (Text × List Text) :=
  match t with
  | '#' :: '!' :: r =>
    let line := (r.takeWhile (· != '\n')).dropWhile fun c => c == ' ' || c == '\t'
    let path := line.takeWhile fun c => c != ' ' && c != '\t'
    let rest := ((line.drop path.length).dropWhile fun c => c == ' ' || c == '\t')
    let rest := (rest.reverse.dropWhile fun c => c == ' ' || c == '\t').reverse
    some (path, if rest.isEmpty then [] else [rest])
  | _ => none

def shells : List String := ["dash", "sh", "bash"]

/-- Programs that only start another one, with the number of operands in front of it and the
letters of options that take a value. -/
def wrapper? (name : String) : Option (Nat × String) :=
  match name with
  | "nohup" => some (0, "")
  | "nice" => some (0, "n:")
  | "setsid" => some (0, "fwc")
  | "stdbuf" => some (0, "i:o:e:")
  | "timeout" => some (1, "s:k:vfp")
  | _ => none

/-- How `env` changes the environment, and the command behind that. -/
structure EnvironmentChange where
  isEmpty : Bool
  removed : List Text
  given : List (Text × Text)
  /-- The directory in which the command is carried out. -/
  directory : Option Text
  /-- What is printed ends with NUL. -/
  null : Bool
  command : List Text

def environmentOptions : Program.Known :=
  ⟨"iu:0vS:C:", [("ignore-environment", 'i'), ("unset", 'u'), ("chdir", 'C'), ("null", '0'),
    ("split-string", 'S')], true⟩

/-- Read the options of `env`. One of them holds further arguments in a single text. -/
def readEnvironmentChange : Nat → List Text → Except Text EnvironmentChange
  | 0, _ => .error []
  | fuel + 1, args => do
    let g ← Program.readOptions environmentOptions (args.length + 1) args
    match g.value? 'S' with
    | some t =>
      let (words, _) := Program.inputWords false (t.length + 1) [] none t
      let before := args.take (args.length - g.operands.length)
      let before := before.takeWhile fun a => !"-S".toList.isPrefixOf a && !"--s".toList.isPrefixOf a
      readEnvironmentChange fuel (before ++ words.map Program.InputWord.text ++ g.operands)
    | none =>
      let dash := g.operands.head? = some ['-']
      let operands := if dash then g.operands.tail else g.operands
      let given := operands.takeWhile fun a => a.any (· == '=')
      return ⟨g.has 'i' || dash, (g.options.filter fun o => o.1 == 'u').map fun o => o.2,
        given.map fun a => let d := Builtin.definition a; (d.1, d.2.getD []),
        g.value? 'C', g.has '0', operands.drop given.length⟩

/-- What is wrong with a change of the environment. -/
def EnvironmentChange.flaw? (x : EnvironmentChange) (s : State) : Option Text :=
  match x.removed.find? fun n => n.isEmpty || n.any (· == '=') with
  | some n => some ("cannot unset ".toList ++ Program.inQuotes n ++ ": Invalid argument".toList)
  | none =>
    let refused := fun (d : Text) (cause : Text) =>
      some ("cannot change directory to ".toList ++ Program.inQuotes d ++ ": ".toList ++ cause)
    match x.directory with
    | none => none
    | some d =>
      if x.command.isEmpty then some "must specify command with --chdir (-C)".toList
      else match s.resolve d with
      | .ok ⟨_, .directory⟩ => none
      | .ok _ => refused d "Not a directory".toList
      | .error e => refused d (Program.cause e)

def changeEnvironment (x : EnvironmentChange) (s : State) : State :=
  let kept := if x.isEmpty then [] else s.bindings.filter fun e => !x.removed.contains e.1
  let directory := match x.directory.map s.resolve with
    | some (.ok r) => r.place
    | _ => s.directory
  { s with
    directory
    bindings := x.given.foldl (fun b e =>
      State.replace e.1 (⟨some e.2, true, false⟩ : Variable) b) kept }

mutual

/-- Carry out a command. `tested` tells that somebody looks at its status. -/
def run : Nat → Bool → Command → State → State
  | 0, _, _, s => s.withFlow .stop
  | fuel + 1, tested, c, s =>
    if !s.goesOn then s
    else match c with
    | .skip => s
    | .sequence a b => run fuel tested b (run fuel tested a s)
    | .both a b =>
      let s := run fuel true a s
      if s.goesOn && s.status = 0 then run fuel tested b s else s
    | .either a b =>
      let s := run fuel true a s
      if s.goesOn && s.status ≠ 0 then run fuel tested b s else s
    | .negated a =>
      let s := run fuel true a s
      if s.goesOn then s.withStatus (if s.status = 0 then 1 else 0) else s
    | .pipe a b => checked tested (answer fuel (pipe fuel tested a b s))
    | .subshell line a rs =>
      let (os, s) := Target.openings (substitute fuel) rs { s with line }
      if !s.goesOn then s
      else
        if s.inPlace && s.traps.all fun t => t.2.isEmpty then
          let own := Opening.tieAll (substitute fuel) os { s with inPlace := a.leavesPlace }
          let s' := run fuel tested a own
          if s'.goesOn then s'.withFlow .exit else s'
        else
          let begun := { child s with inPlace := a.leavesPlace }
          let own := Opening.tieAll (substitute fuel) os begun
          checked tested (answer fuel (rejoin s (ending fuel (run fuel tested a own))))
    | .background line a rs => background fuel a rs (if line = 0 then s else { s with line })
    | .conditional test yes no =>
      let s := run fuel true test s
      if !s.goesOn then s
      else if s.status = 0 then run fuel tested yes s
      else match no with
        | .skip => s.withStatus 0
        | no => run fuel tested no s
    | .loop wanted test body =>
      { loop fuel tested wanted test body 0 { s with loops := s.loops + 1 } with loops := s.loops }
    | .each line name values body =>
      let (values, s) := Expansion.fields (substitute fuel) { s with line } values
      if !s.goesOn then s
      else { each fuel tested name values body 0 { s with loops := s.loops + 1 } with
        loops := s.loops }
    | .choice line subject arms =>
      let (t, s) := Expansion.text (substitute fuel) { s with line } subject
      choose fuel tested t arms s
    | .define _ name body =>
      { s with functions := State.replace name body s.functions, status := 0 }
    | .redirected line a rs =>
      let (os, s) := Target.openings (substitute fuel) rs { s with line }
      if !s.goesOn then s
      else
        let s' := Opening.tieAll (substitute fuel) os s
        if s'.flow == .error then { s' with channels := s.channels, flow := .next }
        else { run fuel tested a s' with channels := s.channels }
    | .simple line assignments words rs =>
      checked tested (answer fuel (simple fuel tested assignments words rs { s with line }))

/-- End the shell after a failure, if it is to end then. -/
def checked (tested : Bool) (s : State) : State :=
  if !tested && s.goesOn && s.status ≠ 0 && s.isOn .errexit then s.withFlow .exit else s

/-- Carry out the actions for signals that have come. -/
def answer : Nat → State → State
  | 0, s => s
  | fuel + 1, s =>
    if !s.goesOn then s
    else match s.due.mergeSort with
    | [] => s
    | signal :: more =>
      let s := { s with due := more }
      match s.traps.lookup signal with
      | none => answer fuel s
      | some action =>
        let before := s.statusBefore
        let status := before.getD s.status
        let s' := script fuel false false (Reader.ofText action 1 true)
          { s with statusBefore := some status }
        if s'.goesOn then answer fuel { s' with status, statusBefore := before } else s'

/-- Carry out what is left to be done at the end of a shell. -/
def ending : Nat → State → State
  | 0, s => s
  | fuel + 1, s =>
    if s.flow == .stop || s.killedBy.isSome then s
    else
      let s := { s with status := s.status % 256 }
      match s.traps.lookup 0 with
      | none => s
      | some action =>
        let s' := script fuel false false (Reader.ofText action 1 true)
          { s with traps := s.traps.filter (fun t => t.1 ≠ 0), flow := .next,
                   statusBefore := some s.status }
        match s'.flow with
        | .stop => s'
        | .exit => { s' with status := s'.status % 256 }
        | .error => s'
        | _ => { s' with status := s.status }

def pipe : Nat → Bool → Command → Command → State → State
  | 0, _, _, _, s => s.withFlow .stop
  | fuel + 1, tested, a, b, s =>
    let s := foresee b (foresee a s)
    let begun := s.world.now
    let (p, s1) := s.addPipe
    let first := { child s1 with inPlace := a.leavesPlace }
    let left := ending fuel (run fuel tested a (first.setChannel 1 (.pipe p)))
    let leftStops := left.flow = .stop
    let leftEnds := left.world.now
    let closes := closing left p leftEnds
    let (pieces, s2) := (rejoin s1 left).takePipe p
    let (n, s3) := s2.addSource
      ⟨pieces, if leftStops || closes ≥ never then none else some closes, none⟩
    let s4 := { s3 with
      world := { s3.world with now := begun, killed := s.world.killed }
      flow := .next
      killedBy := none }
    let second := { child s4 with inPlace := b.leavesPlace }
    let right := ending fuel (run fuel tested b (second.setChannel 0 (.source n)))
    let s5 := rejoin s4 right
    if s5.killedBy.isSome then s5
    else match s2.killedBy with
    | some signal => orphaned right (s5.die s2.world.now signal)
    | none => if leftStops then s5.stopped else s5.waitUntil leftEnds

def background : Nat → Command → List Redirection → State → State
  | 0, _, _, s => s.withFlow .stop
  | fuel + 1, c, rs, s =>
    let (os, s) := Target.openings (substitute fuel) rs s
    if !s.goesOn then s
    else
      let (n, s) := s.fresh
      let begun := { child s with
        job := n
        process := n + State.mainNumber
        inPlace := c.leavesPlace
        world := { s.world with
          now := s.world.now + State.processCost
          horizon := s.world.now + jobLimit
          made := [] } }
      let tied := Opening.tieAll (substitute fuel) os (begun.setChannel 0 .null)
      let own := ending fuel (run fuel false c tied)
      let job : Job := ⟨n, endOf own, statusOf own, tied.held, pipesOf tied, heeds own⟩
      Builtin.learn n { s with
        lastJob := some (n + State.mainNumber)
        status := 0
        begun := (n, c, tied) :: s.begun
        world := { own.world with
          now := s.world.now
          horizon := s.world.horizon
          tree := s.world.tree
          attributes := s.world.attributes
          coming := inOrder (s.world.coming ++ own.world.made.reverse)
          made := if s.job = 0 then [] else own.world.made ++ s.world.made
          jobs := job :: own.world.jobs } }

/-- Let jobs answer the signals that were sent to them: each is carried out once more from its
beginning, and what it does from now on takes the place of what it would have done. -/
def resume : Nat → State → State
  | 0, s => s
  | fuel + 1, s =>
    let now := s.world.now
    s.begun.foldl (fun s b =>
      let (n, c, tied) := b
      let sent := s.world.signals.filter fun x => x.target == n + State.mainNumber
      if !sent.any fun x => x.time == now then s
      else
        let own := ending fuel (run fuel false c { tied with
          world := { tied.world with signals := tied.world.signals ++ sent } })
        let s := Builtin.silence n s
        let isLater := fun (time job : Nat) => job == n && decide (time > now)
        let writes := own.world.writes.filter fun w => isLater w.time w.job
        let made := own.world.made.filter fun x => isLater x.time x.job
        let signals := own.world.signals.filter fun x =>
          decide (x.time > now) && !s.world.signals.contains x
        let jobs := s.world.jobs.map fun j =>
          if j.number = n then { j with ends := endOf own, status := statusOf own } else j
        { s with world := { s.world with
            writes := writes ++ s.world.writes
            coming := inOrder (s.world.coming ++ made.reverse)
            made := if s.job = 0 then [] else made ++ s.world.made
            signals := s.world.signals ++ signals
            jobs } }) s

/-- Turn a loop. The status is that of the last turn of the body. -/
def loop : Nat → Bool → Bool → Command → Command → Nat → State → State
  | 0, _, _, _, _, _, s => s.withFlow .stop
  | fuel + 1, tested, wanted, test, body, last, s =>
    match afterTurn (run fuel true test s) with
    | (.leave, s) => if s.goesOn then s.withStatus last else s
    | (.again, s) => loop fuel tested wanted test body last s
    | (.on, s) =>
      if (s.status == 0) != wanted then s.withStatus last
      else
        match afterTurn (run fuel tested body s) with
        | (.leave, s) => s
        | (_, s) => loop fuel tested wanted test body s.status s

def each : Nat → Bool → Text → List Text → Command → Nat → State → State
  | 0, _, _, _, _, _, s => s.withFlow .stop
  | _ + 1, _, _, [], _, last, s => s.withStatus last
  | fuel + 1, tested, name, v :: vs, body, _, s =>
    let s := s.assign name v
    if !s.goesOn then s
    else match afterTurn (run fuel tested body s) with
      | (.leave, s) => s
      | (_, s) => each fuel tested name vs body s.status s

def choose : Nat → Bool → Text → List (List Word × Command) → State → State
  | 0, _, _, _, s => s.withFlow .stop
  | _ + 1, _, _, [], s => if s.goesOn then s.withStatus 0 else s
  | fuel + 1, tested, t, (ps, c) :: arms, s =>
    let (found, s) := ps.foldl (fun (x : Bool × State) p =>
      if x.1 || !x.2.goesOn then x
      else
        let (g, s) := Expansion.pattern (substitute fuel) x.2 p
        (Glob.accepts g t, s)) (false, s)
    if !s.goesOn then s
    else if found then
      match c with
      | .skip => s.withStatus 0
      | c => run fuel tested c s
    else choose fuel tested t arms s

/-- The output of a command inside of a word. -/
def substitute : Nat → State → Command → Text × State
  | 0, s, _ => ([], s.withFlow .stop)
  | fuel + 1, s, body =>
    match body with
    | .skip => ([], s)
    | body =>
      let (p, s1) := s.addPipe
      let begun := { child s1 with inPlace := body.leavesPlace }.setChannel 1 (.pipe p)
      let own := ending fuel (run fuel false body begun)
      let s2 := rejoin s1 own
      let closes := closing own p own.world.now
      let s2 := if !s2.goesOn then s2
        else if closes ≥ never then s2.stopped
        else s2.waitUntil closes
      let (pieces, s3) := s2.takePipe p
      ((pieces.map Prod.snd).flatten, { s3 with status := s.status, innerStatus := s2.status })

/-- Carry out all commands of a script. `fromFile` tells that the script is shown while it is
read, and that it can be read without being carried out. -/
def script : Nat → Bool → Bool → Reader → State → State
  | 0, _, _, _, s => s.withFlow .stop
  | fuel + 1, tested, fromFile, r, s =>
    { scriptFrom fuel tested fromFile false r s with readLine := s.readLine }

def scriptFrom : Nat → Bool → Bool → Bool → Reader → State → State
  | 0, _, _, _, _, s => s.withFlow .stop
  | fuel + 1, tested, fromFile, ran, r, s =>
    if !s.goesOn then s
    else match r.next s.aliases with
    | .error (.wrong line message) => { s with line }.abandon message
    | .error .unfinished => s.withFlow .stop
    | .ok (.ended, _) => if ran then s else s.withStatus 0
    | .ok (.blank, r') =>
      let s := if fromFile then echoInput (consumed r r') s else s
      scriptFrom fuel tested fromFile ran r' s
    | .ok (.command c, r') =>
      let s := if fromFile then echoInput (consumed r r') s else s
      if fromFile && s.isOn .noexec then scriptFrom fuel tested fromFile ran r' s
      else
        scriptFrom fuel tested fromFile true r' (run fuel tested c { s with readLine := r'.line })

/-- Carry out a simple command. -/
def simple : Nat → Bool → List (Text × Word) → List Word → List Redirection → State → State
  | 0, _, _, _, _, s => s.withFlow .stop
  | fuel + 1, tested, assignments, words, rs, s =>
    let sub := substitute fuel
    let (c, s) := Call.read sub words ({ s with innerStatus := 0 }.spend State.smallCost)
    if !s.goesOn then s
    else
      let framed := if c.isLocal then { s with saved := [] :: s.saved } else s
      let (os, s1) := Target.openings sub rs framed
      if !s1.goesOn then s1
      else
        let s2 := Opening.tieAll sub os s1
        if s2.flow == .error then
          let s2 := { s2 with channels := s.channels }
          if c.special then s2 else Call.unwind s.saved.length (s2.withFlow .next)
        else if !s2.goesOn then s2
        else
          let (shown, s3) := Call.assignAll sub c assignments s2
          if !s3.goesOn then { s3 with channels := s.channels }
          else
            let traced := Call.trace sub (shown ++ c.fields) { s3 with channels := s.channels }
            let s4 := { traced with channels := s3.channels }
            let s5 := if c.fields.isEmpty then s4.withStatus s4.innerStatus else
              invoke fuel tested c s4
            let s6 := if c.keeps then s5.noteClosed s else { s5 with channels := s.channels }
            Call.unwind s.saved.length s6

/-- Carry out a command by its name. -/
def invoke : Nat → Bool → Call → State → State
  | 0, _, _, s => s.withFlow .stop
  | fuel + 1, tested, c, s =>
    let args := c.arguments
    match if c.functions then s.functions.lookup c.name else none with
    | some body =>
      if s.depth ≥ depthLimit then
        s.abandon s!"Maximum function recursion depth ({depthLimit}) reached"
      else
        let s' := run fuel tested body { s with
          arguments := args
          loops := 0
          depth := s.depth + 1
          optionPlace := ⟨1, none⟩
          inPlace := false }
        { s' with
          arguments := s.arguments
          loops := s.loops
          depth := s.depth
          optionPlace := s.optionPlace
          flow := if s'.flow = .return then .next else s'.flow }
    | none =>
      if !Builtin.isBuiltin c.name then external fuel c.standard c.name args s
      else
        let s' := builtin fuel tested c.name args
          { s with command := some c.name, inPlace := false }
        let s' := { s' with command := s.command }
        let s' := if c.name = "kill".toList then resume fuel s' else s'
        if s'.flow == .error && !c.special then s'.withFlow .next else s'

/-- Carry out a command of the shell. -/
def builtin : Nat → Bool → Text → List Text → State → State
  | 0, _, _, _, s => s.withFlow .stop
  | fuel + 1, tested, name, args, s =>
    match String.ofList name with
    | "exit" =>
      withGiven args s fun n =>
        ({ s with statusBefore := none }.withStatus (n.getD (s.statusBefore.getD s.status))).withFlow
          .exit
    | "return" => withGiven args s fun n => (s.withStatus (n.getD s.status)).withFlow .return
    | "break" => leave .break args s
    | "continue" => leave .continue args s
    | "eval" =>
      let t := (args.intersperse [' ']).flatten
      script fuel tested false (Reader.ofText t 1 true) s
    | "exec" =>
      match args with
      | [] => s.withStatus 0
      | name :: args =>
        let (found, s) := Builtin.program s false name
        match found with
        | .error e => (s.fail 127 (String.ofList name ++ ": " ++ e.message)).withFlow .exit
        | .ok path =>
          let s' := start fuel path name args { s with
            traps := s.traps.filter fun t => t.2.isEmpty
            inPlace := true }
          if s'.goesOn then { s' with traps := s.traps }.withFlow .exit else s'
    | "command" => Builtin.describeFirst args s
    | "type" => Builtin.type args s
    | "hash" => Builtin.hash args s
    | "." =>
      match args with
      | [] => s.withStatus 0
      | given :: _ =>
        match sourcePath? s given with
        | none => s.refuse (given ++ ": not found".toList)
        | some path =>
          match scriptOf path s with
          | .error e => Opening.failed "open" path e s
          | .ok (t, s) =>
            let s' := script fuel false true (Reader.ofText t 1 true) { s with command := some path }
            { s' with flow := if s'.flow = .return then .next else s'.flow }
    | _ =>
      match Builtin.find? name with
      | none => s
      | some f =>
        if s.canWrite 1 then f args s
        else
          let channels := s.channels
          let (p, s) := s.addPipe
          let s' := f args (s.setChannel 1 (.pipe p))
          let (pieces, s') := s'.takePipe p
          let s' := { s' with channels }
          if pieces.isEmpty then s'
          else (s'.complainBytes (name ++ ": I/O error".toList)).withStatus
            (if s'.status % 2 = 0 then s'.status + 1 else s'.status)

/-- Look for a program and carry it out. -/
def external : Nat → Bool → Text → List Text → State → State
  | 0, _, _, _, s => s.withFlow .stop
  | fuel + 1, standard, name, args, s =>
    let (found, s) := Builtin.program s standard name
    match found with
    | .error e => s.fail 127 (String.ofList name ++ ": " ++ e.message)
    | .ok path => start fuel path name args s

/-- Carry out the program at a path in a process of its own. -/
def start : Nat → Text → Text → List Text → State → State
  | 0, _, _, _, s => s.withFlow .stop
  | fuel + 1, path, name, args, s =>
    let refused := fun (status : Nat) (message : String) =>
      s.fail status (String.ofList name ++ ": " ++ message)
    match s.resolve path with
    | .error .permissionDenied => refused 126 "Permission denied"
    | .error .tooManyLinks => refused 126 "Too many levels of symbolic links"
    | .error .nameTooLong => refused 126 "File name too long"
    | .error _ => refused 127 "not found"
    | .ok ⟨place, .file bytes⟩ =>
      if !Builtin.isExecutable s place then refused 126 "Permission denied"
      else
        let inOwn := fun (f : State → State) =>
          if s.inPlace then
            let s' := f { s with inPlace := false, due := [] }
            if s'.goesOn then s'.withFlow .exit else s'
          else rejoin s ((f (child s)).spend State.processCost)
        if place.dropLast = Files.Layout.names "usr/bin" then
        inOwn fun s => program fuel (String.ofList (place.getLast?.getD [])) args (s.asProgram name)
      else
        let t := ofBytes bytes
        match interpreter? t with
        | none => inOwn fun s => program fuel "dash" (path :: args) (s.asProgram name)
        | some (inner, more) =>
          if (s.resolve inner).toOption.isNone then refused 127 "not found"
          else start fuel inner inner (more ++ path :: args) s
    | .ok _ => refused 126 "Permission denied"

/-- Carry out a program by its name. -/
def program : Nat → String → List Text → State → State
  | 0, _, _, s => s.withFlow .stop
  | fuel + 1, name, args, s =>
    if shells.contains name then
      match Start.ofArguments s.name args with
      | .error message => ({ s with line := 0 }.refuse message).withFlow .exit
      | .ok x => shell fuel x { s with number := s.process }
    else match name with
    | "env" =>
      match readEnvironmentChange 8 args with
      | .error message => Program.misused 125 message s
      | .ok x =>
        match x.flaw? s with
        | some message => Program.fail 125 message s
        | none =>
          let s := changeEnvironment x s
          match x.command with
          | [] => Program.printEnvironment x.null s
          | name :: args => other fuel 127 126 name args s
    | "xargs" =>
      Program.withOptions 1 Program.Batching.options (Program.Batching.plainArguments args) s
        fun g s =>
        match Program.Batching.ofGiven g with
        | .error (.misuse message) => Program.misused 1 message s
        | .error (.other message) => Program.fail 1 message s
        | .ok b =>
          let s := b.warnings.foldl (fun s w => Program.say w s) (s.withStatus 0)
          let (read, s) := match b.source with
            | some path => Program.content path s
            | none => let (t, s) := s.readAll 0; (.ok t, s)
          match read with
          | .error e => Program.fail 1 ("Cannot open input file ".toList ++
              Program.inQuotes (b.source.getD []) ++ ": ".toList ++ e) s
          | .ok t =>
            if !s.goesOn then s
            else
              let (lines, flaw) := b.commandLines t
              let s := several fuel b lines s
              match flaw with
              | some message => if s.goesOn then Program.fail 1 message s else s
              | none => s
    | "find" =>
      match Program.findFiles args s with
      | .error message => Program.fail 1 message s
      | .ok (wishes, found, s) => perform fuel wishes (found.map Prod.snd) s
    | name =>
      match wrapper? name with
      | some (count, letters) =>
        Program.withOptions 125 ⟨letters, [("preserve-status", 'p'), ("signal", 's')], true⟩ args s
          fun g s =>
          match g.operands.drop count with
          | [] => Program.misused 125 "missing operand".toList s
          | inner :: args =>
            if name = "timeout" then
              match Program.pause? (g.operands.head?.getD []) with
              | none => Program.misused 125
                ("invalid time interval ".toList ++
                  Program.inQuotes (g.operands.head?.getD [])) s
              | some 0 => other fuel 127 126 inner args s
              | some pause =>
                let ends := s.world.now + pause
                let horizon := s.world.horizon
                let own := { s with world := { s.world with horizon := min ends horizon } }
                let s' := other fuel 127 126 inner args own
                let s' := { s' with world := { s'.world with horizon } }
                if s'.flow = .stop && ends < horizon then
                  (({ s' with world := { s'.world with now := ends } }).withFlow .next).withStatus
                    124
                else s'
            else other fuel 127 126 inner args s
      | none =>
        match Program.find? name with
        | some f => f args s
        | none => s

/-- Carry out a shell. -/
def shell : Nat → Start → State → State
  | 0, _, s => s.withFlow .stop
  | fuel + 1, x, given =>
    let s := given.asShell x
    let s := if x.listed then s.out (Setting.listing Setting.all).toList else s
    match x.origin with
    | .text t => ending fuel (script fuel false false (Reader.ofText t 1 true) s)
    | .file path =>
      match scriptOf path s with
      | .error e => (Opening.failed "open" path e { s with line := 0, name := given.name }).withFlow
          .exit
      | .ok (t, s) => ending fuel (script fuel false true (Reader.ofText t 1 true) s)
    | .input => ending fuel (feed fuel (Reader.ofText [] 1 false) s)

/-- Carry out the commands of the input as they arrive. -/
def feed : Nat → Reader → State → State
  | 0, _, s => s.withFlow .stop
  | fuel + 1, r, s =>
    if !s.goesOn then s
    else match r.next s.aliases with
    | .error (.wrong line message) => { s with line }.abandon message
    | .error .unfinished =>
      match s.readPiece 0 with
      | (some t, s) => if s.goesOn then feed fuel (r.append t) s else s
      | (none, s) => if s.goesOn then feed fuel { r with closed := true } s else s
    | .ok (.ended, _) => s
    | .ok (.blank, r') => feed fuel r' (echoInput (consumed r r') s)
    | .ok (.command c, r') =>
      let s := echoInput (consumed r r') s
      feed fuel r' (if s.isOn .noexec then s
        else run fuel false c { s with readLine := r'.line, inputLine := r'.line })

/-- Carry out a program for another program, which tells what goes wrong. -/
def other : Nat → Nat → Nat → Text → List Text → State → State
  | 0, _, _, _, _, s => s.withFlow .stop
  | fuel + 1, missing, denied, name, args, s =>
    let refused := fun (status : Nat) (message : String) =>
      Program.fail status (Program.inQuotes name ++ (": " ++ message).toList) s
    match (Builtin.program s (s.value? "PATH".toList).isNone name).1 with
    | .error .notFound => refused missing "No such file or directory"
    | .error .denied => refused denied "Permission denied"
    | .ok path =>
      match s.resolve path with
      | .ok ⟨place, .file bytes⟩ =>
        if !Builtin.isExecutable s place then refused denied "Permission denied"
        else if place.dropLast = Files.Layout.names "usr/bin" then
          let own := { s with name, world := { s.world with now := s.world.now + State.smallCost } }
          program fuel (String.ofList (place.getLast?.getD [])) args own
        else
          match interpreter? (ofBytes bytes) with
          | some (inner, more) => other fuel missing denied inner (more ++ path :: args) s
          | none => program fuel "dash" (path :: args) { s with name := "sh".toList }
      | .ok _ => refused denied "Permission denied"
      | .error _ => refused missing "No such file or directory"

/-- Carry out command lines one after the other, without the input that they are made of. -/
def several : Nat → Program.Batching → List (List Text) → State → State
  | 0, _, _, s => s.withFlow .stop
  | _ + 1, _, [], s => s
  | fuel + 1, b, line :: lines, s =>
    match line with
    | [] => several fuel b lines s
    | name :: args =>
      let s := if b.verbose then s.err (Program.Batching.shown line) else s
      let channels := if b.source.isSome then s.channels
        else (0, .null) :: s.channels.filter fun c => c.1 ≠ 0
      let own := { s with channels }.spend State.processCost
      match (Builtin.program s false name).1 with
      | .error .notFound =>
        Program.fail 127 (name ++ ": No such file or directory".toList) s
      | .error .denied => Program.fail 126 (name ++ ": Permission denied".toList) s
      | .ok _ =>
        let s' := other fuel 127 126 name args own
        let after := { s with
          world := s'.world, flow := if s'.flow = .stop then .stop else .next }
        if !after.goesOn then after
        else match s'.killedBy with
        | some n => Program.fail 125 (name ++ ": terminated by signal ".toList ++ ofNat n) after
        | none =>
          if s'.status = 255 then
            Program.fail 124 (name ++ ": exited with status 255; aborting".toList) after
          else several fuel b lines (if s'.status = 0 then after else after.withStatus 123)

/-- Carry out a command line for a file that was found. -/
def single : Nat → List Text → State → State
  | fuel + 1, name :: args, s =>
    let own := s.spend State.processCost
    match (Builtin.program s false name).1 with
    | .error .notFound =>
      Program.say (Program.inQuotes name ++ ": No such file or directory".toList) s
    | .error .denied => Program.say (Program.inQuotes name ++ ": Permission denied".toList) s
    | .ok _ =>
      let s' := other fuel 127 126 name args own
      { s with world := s'.world, flow := if s'.flow = .stop then .stop else .next }
  | _, _, s => s

/-- Do what is wished for with the files that were found. -/
def perform : Nat → List Program.Wish → List Program.Listed → State → State
  | 0, _, _, s => s.withFlow .stop
  | _ + 1, _, [], s => s
  | fuel + 1, wishes, l :: ls, s =>
    let acting := if wishes.any Program.Wish.acts then wishes else wishes ++ [.print]
    let s' := acting.foldl (fun s w =>
      if !s.goesOn then s
      else match w with
        | .print => Program.print (l.name ++ ['\n']) s
        | .printEnded => Program.print (l.name ++ ['\x00']) s
        | .delete => s.removeEntry l.place
        | .run ws =>
          single fuel (ws.map fun a =>
            Program.Batching.replaceText "\x7b\x7d".toList l.name (a.length + 1) a) s
        | _ => s) s
    perform fuel wishes ls s'

end

end Evaluation

end Exemplar.Shell
