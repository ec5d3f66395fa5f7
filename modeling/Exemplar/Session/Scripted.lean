import Exemplar.Session.Basic
import Exemplar.Text.Lines

/-!
# Sessions from a script

A scripted session gives answers that were written down before. The answers to the same
statements are given in turn, and the last one again and again; statements without an
answer are echoed.
-/
namespace Exemplar.Session

/-- How a scripted session opens. -/
inductive Opening
  | opens
  | unknown
  | closed
  | spawn (program : String)
  deriving DecidableEq, Repr

inductive Answer
  | response (r : Response)
  | closed
  | io
  | panic
  deriving DecidableEq, Repr

structure Script where
  opening : Opening
  /-- Answers by the source of the statements. -/
  answers : List (Text × List Answer)

/-- A scripted session counts the runs of every source. -/
structure Scripted where
  language : String
  answers : List (Text × List Answer)
  seen : List Text

namespace Scripted

/-- The account of failures that are only staged. -/
def cause : String := "scripted failure"

def start (scripts : List (String × Script)) (language : String) : Except Error Scripted :=
  match (scripts.find? fun s => s.1 == language).map Prod.snd with
  | none => .ok ⟨language, [], []⟩
  | some script =>
    match script.opening with
    | .opens => .ok ⟨language, script.answers, []⟩
    | .unknown => .error (.unknownLanguage language)
    | .closed => .error (.closed language)
    | .spawn program => .error (.spawn language program cause)

/-- The answer that is due after a number of earlier runs. -/
def due (answers : List Answer) (earlier : Nat) : Option Answer :=
  match answers[earlier]? with
  | some a => some a
  | none => answers.getLast?

def echo (statements : List Text) : Response := ⟨statements.flatMap (· ++ ['\n']), .ok⟩

def reply (language : String) (statements : List Text) : Option Answer → Reply
  | none => .response (echo statements)
  | some (.response r) => .response r
  | some .closed => .failed (.closed language)
  | some .io => .failed (.io language cause)
  | some .panic => .panicked

def run (s : Scripted) (statements : List Text) : Reply × Scripted :=
  let key := Text.joinLines statements
  let known := ((s.answers.find? fun a => a.1 == key).map Prod.snd).getD []
  (reply s.language statements (due known (s.seen.count key)),
   ⟨s.language, s.answers, key :: s.seen⟩)

/-- Scripted sessions as a source of sessions. They write no log. -/
def interpreters (scripts : List (String × Script)) : Interpreters Scripted where
  start := start scripts
  startRecords := fun _ => []
  run := fun s statements _ => s.run statements

end Scripted

end Exemplar.Session
