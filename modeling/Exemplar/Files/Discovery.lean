import Exemplar.Comment.Rule
import Exemplar.Files.Tree

/-!
# Discovering files

Arguments are expanded in order: a directory to the files below it that have a comment
rule, and a file to itself. What lies at or below a skipped path is left out, and no path
is listed twice.
-/
namespace Exemplar.Files

/-- The comment rule for the extension of a path. -/
def ruleFor? (p : Path) : Option Comment.Rule :=
  (Path.extension? p).bind Comment.Rule.forExtension?

def isSkipped (skip : List Path) (p : Path) : Bool := skip.any fun s => Path.isWithin p s

/-- The files that an existing argument stands for. -/
def expand (tree : Tree) (p : Path) : List Path :=
  match tree.directory? p with
  | some place =>
    ((tree.filesBelow place).map (Path.descend p)).filter fun f => (ruleFor? f).isSome
  | none => [p]

/-- Add paths that are not listed yet. -/
def addNew (listed : List Path) : List Path → List Path
  | [] => listed
  | p :: ps => addNew (if listed.any (Path.same p) then listed else listed ++ [p]) ps

/-- An argument that names nothing. -/
structure NotFound where
  path : Path
  deriving DecidableEq, Repr

def NotFound.message (e : NotFound) : String :=
  "No such file or directory: " ++ String.ofList e.path

def discoverFrom (tree : Tree) (skip : List Path) (listed : List Path) :
    List Path → Except NotFound (List Path)
  | [] => .ok listed
  | p :: ps =>
    if tree.exists? p then
      discoverFrom tree skip
        (addNew listed ((expand tree p).filter fun f => !isSkipped skip f)) ps
    else .error ⟨p⟩

/-- The files to check, in the order of the arguments. -/
def discover (tree : Tree) (paths skip : List Path) : Except NotFound (List Path) :=
  discoverFrom tree skip [] paths

end Exemplar.Files
