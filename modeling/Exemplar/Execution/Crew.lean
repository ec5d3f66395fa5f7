import Exemplar.Execution.Run

/-!
# Languages beside each other

The languages of a file run beside each other and share nothing but the mark that a run which is
to stop at the first failure has stopped. Each looks at the mark before an example, and its session
may panic at any time, upon which its outcomes are lost. `Step` allows every alternation of the
languages; running one behind the other, as `runExamples` does, is one of them.
-/
namespace Exemplar.Execution
open Session

/-- One example of a run. -/
structure Entry where
  number : Nat
  subject : Example
  outcome : Outcome
  exchanges : List Exchange

namespace Entry

def numbered (x : Entry) : Nat × Example := (x.number, x.subject)

def result (x : Entry) : Nat × Outcome := (x.number, x.outcome)

/-- An example that is not reached: nothing is exchanged for it. -/
def unreached (x : Nat × Example) : Entry := ⟨x.1, x.2, .unreached x.2, []⟩

end Entry

variable {σ : Type}

/-- What is exchanged at the end of a run. -/
def closed (m : Memory σ) : List Exchange := if m.session.isSome then [.closed] else []

/-- Where the run of one language is. -/
inductive Stage (σ : Type)
  /-- Looks whether the run has stopped. -/
  | looking (todo : List (Nat × Example)) (m : Memory σ) (done : List Entry)
  | executing (next : Nat × Example) (todo : List (Nat × Example)) (m : Memory σ)
    (done : List Entry)
  | ended (m : Memory σ) (done : List Entry)
  /-- A panic has taken with it what was done; only the calls have happened. -/
  | lost (calls : List Exchange)

namespace Stage

@[simp] def todo : Stage σ → List (Nat × Example)
  | looking todo _ _ => todo
  | executing x todo _ _ => x :: todo
  | _ => []

@[simp] def done : Stage σ → List Entry
  | looking _ _ done => done
  | executing _ _ _ done => done
  | ended _ done => done
  | lost _ => []

/-- Outcomes by number. -/
def results (a : Stage σ) : List (Nat × Outcome) := a.done.map Entry.result

/-- What was exchanged with the interpreter. -/
@[simp] def calls : Stage σ → List Exchange
  | looking _ _ done => done.flatMap Entry.exchanges
  | executing _ _ _ done => done.flatMap Entry.exchanges
  | ended m done => done.flatMap Entry.exchanges ++ closed m
  | lost calls => calls

@[simp] def isLost : Stage σ → Bool
  | lost _ => true
  | _ => false

@[simp] def isOver : Stage σ → Bool
  | ended _ _ => true
  | lost _ => true
  | _ => false

/-- A step of one language, with the mark before and after it. -/
inductive Goes (is : Interpreters σ) (settings : Settings) : Bool → Stage σ → Bool → Stage σ → Prop
  | pass {x : Nat × Example} {todo : List (Nat × Example)} {m : Memory σ} {done : List Entry} :
      Goes is settings true (looking (x :: todo) m done)
        true (looking todo m (done ++ [.unreached x]))
  | enter {x : Nat × Example} {todo : List (Nat × Example)} {m : Memory σ} {done : List Entry} :
      Goes is settings false (looking (x :: todo) m done) false (executing x todo m done)
  -- an example touches nothing that is shared, so it may be taken together with its mark
  | execute {stopped : Bool} {x : Nat × Example} {todo : List (Nat × Example)} {m : Memory σ}
      {done : List Entry} {o : Outcome} (ho : (step is settings m x.2).outcome = some o) :
      Goes is settings stopped (executing x todo m done) (stopped || stops settings o)
        (looking todo (step is settings m x.2).memory
          (done ++ [⟨x.1, x.2, o, (step is settings m x.2).exchanges⟩]))
  | finish {stopped : Bool} {m : Memory σ} {done : List Entry} :
      Goes is settings stopped (looking [] m done) stopped (ended m done)
  /-- The session panics under a run. -/
  | perish {stopped : Bool} {x : Nat × Example} {todo : List (Nat × Example)} {m : Memory σ}
      {done : List Entry} (ho : (step is settings m x.2).outcome = none) :
      Goes is settings stopped (executing x todo m done) stopped
        (lost (done.flatMap Entry.exchanges ++ (step is settings m x.2).exchanges))
  /-- Anything else panics. -/
  | panic {stopped : Bool} {a : Stage σ} (h : a.isOver = false) :
      Goes is settings stopped a stopped (lost a.calls)

end Stage

/-- The languages of a file, and the mark that they share. -/
structure Crew (σ : Type) where
  stages : List (String × Stage σ)
  stopped : Bool

namespace Crew

def start (examples : List Example) : Crew σ :=
  ⟨(languagesOf examples).map fun l =>
    (l, .looking (ofLanguage l (numbered examples)) .fresh []), false⟩

/-- One of the languages goes on. -/
inductive Step (is : Interpreters σ) (settings : Settings) : Crew σ → Crew σ → Prop
  | goes {l₁ l₂ : List (String × Stage σ)} {l : String} {a b : Stage σ} {stopped stopped' : Bool}
      (h : Stage.Goes is settings stopped a stopped' b) :
      Step is settings ⟨l₁ ++ (l, a) :: l₂, stopped⟩ ⟨l₁ ++ (l, b) :: l₂, stopped'⟩

/-- Any number of steps. -/
inductive Reaches (is : Interpreters σ) (settings : Settings) : Crew σ → Crew σ → Prop
  | refl (c : Crew σ) : Reaches is settings c c
  | step {c c' d : Crew σ} : Step is settings c c' → Reaches is settings c' d →
      Reaches is settings c d

def Finished (c : Crew σ) : Prop := ∀ t ∈ c.stages, t.2.isOver = true

/-- All languages of a file are over, and this is where they have come to. -/
structure EndOf (c : Crew σ) (is : Interpreters σ) (settings : Settings)
    (examples : List Example) : Prop where
  reaches : Reaches is settings (.start examples) c
  finished : c.Finished

/-- The outcome with a number, if any language has one. -/
def outcomeAt? (c : Crew σ) (i : Nat) : Option Outcome :=
  c.stages.findSome? fun t => (t.2.results.find? fun o => o.1 == i).map Prod.snd

/-- The outcomes of a file in order; what is not there was lost. -/
def outcomes (c : Crew σ) (examples : List Example) : List Outcome :=
  (numbered examples).map fun e => (c.outcomeAt? e.1).getD (.lost e.2)

/-- What was exchanged, language by language. -/
def exchanges (c : Crew σ) : List (String × List Exchange) :=
  c.stages.map fun t => (t.1, t.2.calls)

theorem Reaches.trans {is : Interpreters σ} {settings : Settings} {c d e : Crew σ}
    (h : Reaches is settings c d) (h' : Reaches is settings d e) : Reaches is settings c e := by
  induction h with
  | refl _ => exact h'
  | step s _ ih => exact .step s (ih h')

end Crew

end Exemplar.Execution
