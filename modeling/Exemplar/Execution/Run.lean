import Exemplar.Execution.Language

/-!
# Running the examples of a file

Every language has its own session, so its examples are run apart from the others and
the outcomes are put back in the order of the file. Languages may run beside each other in
any way that `Crew.Step` allows. Here they come one behind the other, in the order of their
tags, which is one of these ways; a run that has stopped does not reach the languages behind.
-/
namespace Exemplar.Execution
open Session

/-- Put a tag into an ordered list without repetition. -/
def insertTag (tag : String) : List String → List String
  | [] => [tag]
  | t :: ts =>
    if tag < t then tag :: t :: ts else if tag = t then t :: ts else t :: insertTag tag ts

def languagesOf (examples : List Example) : List String :=
  (examples.map Example.language).foldr insertTag []

/-- Examples with their numbers. -/
def numbered (examples : List Example) : List (Nat × Example) :=
  examples.zipIdx.map fun e => (e.2, e.1)

def ofLanguage (language : String) (examples : List (Nat × Example)) : List (Nat × Example) :=
  examples.filter fun e => e.2.language == language

variable {σ : Type}

/-- The runs of the languages, one after the other. -/
def runLanguages (is : Interpreters σ) (settings : Settings) (examples : List (Nat × Example))
    (stopped : Bool) : List String → List (String × LanguageRun)
  | [] => []
  | l :: ls =>
    let r := runFrom is settings l .fresh stopped (ofLanguage l examples)
    (l, r) :: runLanguages is settings examples r.stopped ls

structure FileRun where
  /-- One outcome for each example, in the order of the file. -/
  outcomes : List Outcome
  /-- What was exchanged, language by language. -/
  exchanges : List (String × List Exchange)
  records : List Log.Record

/-- The outcome with a number, if any run has one. -/
def outcomeAt? (runs : List (String × LanguageRun)) (i : Nat) : Option Outcome :=
  runs.findSome? fun r => (r.2.outcomes.find? fun o => o.1 == i).map Prod.snd

/-- The outcome of an example whose session panicked. -/
def Outcome.lost (e : Example) : Outcome := .errored e none .panicked

def runRecords (r : LanguageRun) : List Log.Record :=
  r.records ++ if r.panicked then [⟨.error, "a session thread panicked"⟩] else []

def runExamples (is : Interpreters σ) (settings : Settings) (examples : List Example) : FileRun :=
  let all := numbered examples
  let runs := runLanguages is settings all false (languagesOf examples)
  ⟨all.map fun e => (outcomeAt? runs e.1).getD (.lost e.2),
   runs.map fun r => (r.1, r.2.exchanges),
   runs.flatMap fun r => runRecords r.2⟩

end Exemplar.Execution
