import Exemplar.Comment.Block
import Exemplar.Example.Reader
import Exemplar.Files.Discovery

/-!
# Harvesting a file

The examples of a text are those of its blocks, in order. Problems are collected and
never stop the harvest; only a file that cannot be read, or whose kind is unknown, does.
-/
namespace Exemplar

/-- A problem that was passed over. -/
inductive Problem
  | comment (p : Comment.Problem)
  | anExample (p : Example.Problem)
  deriving DecidableEq, Repr

def Problem.message : Problem → String
  | comment p => p.message
  | anExample p => p.message

structure Harvest where
  examples : List Example
  /-- Problems of the comments come before those of the examples. -/
  problems : List Problem
  records : List Log.Record

namespace Harvest
open Comment

def itemsOf (table : Prompt.Table) (b : Block) : List Example.Item :=
  Example.parse table b.line b.text

def example? : Example.Item → Option Example
  | .ok e => some e
  | .error _ => none

def problem? : Example.Item → Option Example.Problem
  | .ok _ => none
  | .error p => some p

/-- What the log says about a block. -/
def blockRecords (table : Prompt.Table) (b : Block) : List Log.Record :=
  ⟨.trace, s!"block at line {b.line} ({Text.byteSize b.text} bytes)"⟩ ::
    ((itemsOf table b).filterMap problem?).flatMap Example.Problem.records

def ofText (rule : Rule) (table : Prompt.Table) (t : Text) : Harvest :=
  let found := extract rule t
  let items := found.blocks.flatMap (itemsOf table)
  ⟨items.filterMap example?,
   found.problems.map Problem.comment ++ (items.filterMap problem?).map Problem.anExample,
   found.records ++ found.blocks.flatMap (blockRecords table)⟩

/-- Why a file cannot be harvested. -/
inductive Failure
  | noRule (path : Path)
  | unreadable (path : Path) (cause : Files.Tree.ReadError)
  deriving DecidableEq, Repr

def Failure.message : Failure → String
  | noRule p => "No comment rule for file type of " ++ String.ofList p
  | unreadable p cause => "Failed to read " ++ String.ofList p ++ ": " ++ cause.message

/-- The rule for a file; line comments can be made searchable for every kind of file. -/
def ruleFor? (p : Path) (searchLineComments : Bool) : Option Rule :=
  (Files.ruleFor? p).map fun r => if searchLineComments then r.withSearchable true else r

def ofFile (tree : Files.Tree) (table : Prompt.Table) (searchLineComments : Bool) (p : Path) :
    Except Failure Harvest :=
  match ruleFor? p searchLineComments with
  | none => .error (.noRule p)
  | some rule =>
    match tree.readText p with
    | .error cause => .error (.unreadable p cause)
    | .ok t =>
      let h := ofText rule table t
      let path := String.ofList p
      .ok ⟨h.examples, h.problems, h.records ++
        h.problems.map (fun x => ⟨.warn, path ++ ": " ++ x.message⟩) ++
        [⟨.debug, s!"{path}: {h.examples.length} example(s) using {rule.name}"⟩]⟩

end Harvest

end Exemplar
