/-!
# Several workers

Workers take tasks by number and send the results to a receiver, which releases them in
the order of the tasks. A result may ask to stop; then no worker takes another task. The
steps of the workers and of the receiver may alternate in any way, and `Step` allows them
all. `finish` takes the first worker that can move, and lets the receiver move last.
-/
namespace Exemplar

/-- Numbered tasks and their results. -/
structure Tasks (α : Type) where
  count : Nat
  result : Nat → α
  /-- Whether a result asks to stop. -/
  halts : α → Bool

/-- What a worker does next. -/
inductive Worker (α : Type)
  /-- Looks whether to stop. -/
  | looking
  /-- Takes the next number. -/
  | claiming
  | working (task : Nat)
  /-- Asks to stop, if the result does. -/
  | marking (task : Nat) (result : α)
  | sending (task : Nat) (result : α)
  | gone

structure Pool (α : Type) where
  workers : List (Worker α)
  /-- The next number to be taken. -/
  next : Nat
  stopped : Bool
  /-- Results on their way, oldest first. -/
  sent : List (Nat × α)
  /-- Results that wait for an earlier one. -/
  waiting : List (Nat × α)
  /-- Results of the first tasks, in order. -/
  released : List α

inductive Action
  | worker (index : Nat)
  | receiver
  deriving DecidableEq, Repr

namespace Pool
variable {α : Type}

def start (workers : Nat) : Pool α :=
  ⟨List.replicate workers .looking, 0, false, [], [], []⟩

def setWorker (p : Pool α) (index : Nat) (w : Worker α) : Pool α :=
  { p with workers := p.workers.set index w }

/-- One step of a worker; a worker that is gone takes none. -/
def moveWorker (tasks : Tasks α) (p : Pool α) (index : Nat) : Worker α → Option (Pool α)
  | .looking => some (p.setWorker index (if p.stopped then .gone else .claiming))
  | .claiming =>
    let p' := { p with next := p.next + 1 }
    some (p'.setWorker index (if p.next < tasks.count then .working p.next else .gone))
  | .working i => some (p.setWorker index (.marking i (tasks.result i)))
  | .marking i r =>
    some ({ p with stopped := p.stopped || tasks.halts r }.setWorker index (.sending i r))
  | .sending i r => some ({ p with sent := p.sent ++ [(i, r)] }.setWorker index .looking)
  | .gone => none

/-- Release results as long as the next one is there. -/
def release : Nat → Pool α → Pool α
  | 0, p => p
  | fuel + 1, p =>
    match p.waiting.lookup p.released.length with
    | none => p
    | some r =>
      release fuel { p with
        waiting := p.waiting.filter fun e => e.1 != p.released.length
        released := p.released ++ [r] }

/-- The receiver takes the oldest result and releases what it can. -/
def receive (p : Pool α) : Option (Pool α) :=
  match p.sent with
  | [] => none
  | e :: sent =>
    let waiting := e :: p.waiting
    some (release waiting.length { p with sent, waiting })

def act (tasks : Tasks α) (p : Pool α) : Action → Option (Pool α)
  | .worker i => p.workers[i]?.bind (p.moveWorker tasks i)
  | .receiver => p.receive

/-- One step of anyone. -/
def Step (tasks : Tasks α) (p q : Pool α) : Prop := ∃ a, p.act tasks a = some q

/-- Any number of steps. -/
inductive Reaches (tasks : Tasks α) : Pool α → Pool α → Prop
  | refl (p : Pool α) : Reaches tasks p p
  | step {p q r : Pool α} : Step tasks p q → Reaches tasks q r → Reaches tasks p r

/-- Nobody can move any more. -/
def Finished (tasks : Tasks α) (p : Pool α) : Prop := ∀ a, p.act tasks a = none

theorem Reaches.trans {tasks : Tasks α} {p q r : Pool α} (h : Reaches tasks p q)
    (h' : Reaches tasks q r) : Reaches tasks p r := by
  induction h with
  | refl _ => exact h'
  | step s _ ih => exact .step s (ih h')

def isGone : Worker α → Bool
  | .gone => true
  | _ => false

/-- Who moves next: the first worker that is not gone, or else the receiver. -/
def nextAction (p : Pool α) : Action :=
  match p.workers.findIdx? fun w => !isGone w with
  | some i => .worker i
  | none => .receiver

def drive (tasks : Tasks α) : Nat → Pool α → Pool α
  | 0, p => p
  | fuel + 1, p =>
    match p.act tasks p.nextAction with
    | some q => drive tasks fuel q
    | none => p

/-- Steps that a pool takes at most: six for each task, and two for each worker at its end. -/
def stepLimit (tasks : Tasks α) (workers : Nat) : Nat := 6 * tasks.count + 2 * workers

/-- The pool at the end of all steps. -/
def finish (tasks : Tasks α) (workers : Nat) : Pool α :=
  drive tasks (stepLimit tasks workers) (start workers)

theorem drive_reaches (tasks : Tasks α) (fuel : Nat) (p : Pool α) :
    Reaches tasks p (drive tasks fuel p) := by
  induction fuel generalizing p with
  | zero => exact .refl p
  | succ fuel ih =>
    simp only [drive]
    split
    · next q h => exact .step ⟨_, h⟩ (ih q)
    · exact .refl p

theorem finish_reaches (tasks : Tasks α) (workers : Nat) :
    Reaches tasks (start workers) (finish tasks workers) :=
  drive_reaches tasks _ _

end Pool

end Exemplar
