import Exemplar.Check
import Exemplar.CommandLine.Config

/-!
# One invocation of the program

An invocation reads its arguments, runs, and ends with a status. What it prints to
standard output is the report; notices go to the error stream, as far as the verbosity
lets them through.
-/
namespace Exemplar.CommandLine

/-- What an invocation leaves behind. -/
structure Completion where
  exitCode : Nat
  output : Text
  errors : String
  deriving DecidableEq, Repr

namespace Completion

def failed (errors : String) : Completion := ⟨Report.Verdict.fatal.exitCode, [], errors⟩

/-- The end of an invocation that could not be carried out. -/
def ofError (message : String) : Completion := failed ((Notice.failure message).render none)

def renderNotices (t : Log.Threshold) (ns : List Notice) : String :=
  String.join (ns.map (Notice.render t))

end Completion

/-- Run with a configuration. The interpreters depend on the registry it asks for. -/
def Config.complete {σ : Type} (c : Config) (tree : Files.Tree)
    (interpreters : Session.Registry → Session.Interpreters σ) (elapsed : Path → Duration) :
    Completion :=
  let shown := Log.threshold c.verbosity c.quiet
  match c.registry with
  | .error e => .ofError e.message
  | .ok registry =>
    match run c tree (interpreters registry) elapsed with
    | .error refusal =>
      .failed (Completion.renderNotices shown
        (refusal.notices ++ [.failure refusal.cause.message]))
    | .ok r =>
      ⟨r.verdict.exitCode, r.output, Completion.renderNotices shown r.notices⟩

/-- Carry out an invocation with arguments that are understood. -/
def invoke {σ : Type} (args : List Text) (env : Config.Environment) (tree : Files.Tree)
    (interpreters : Session.Registry → Session.Interpreters σ) (elapsed : Path → Duration) :
    Except UsageError Completion :=
  match read forms args with
  | .error e => .error e
  | .ok found =>
    match Config.ofFound found env with
    | .error e => .ok (.ofError e.message)
    | .ok c => .ok (c.complete tree interpreters elapsed)

end Exemplar.CommandLine
