import Exemplar.Files.Path
import Exemplar.Text.Utf8

/-!
# File trees

A tree lists files, directories and links by their place, which is the list of names
from the top. A path is resolved name by name, from the top or from the working
directory; links are followed on the way, up to a number of them that only a circle of
links exceeds.
-/
namespace Exemplar.Files

inductive Entry
  | file (bytes : List UInt8)
  | directory
  | link (target : Path)
  /-- Holds no bytes of its own. -/
  | device
  deriving DecidableEq, Repr

/-- Names from the top of the tree. -/
abbrev Place := List Text

structure Tree where
  entries : List (Place × Entry)
  /-- The place of the working directory. -/
  home : Place

/-- Why the system refuses. -/
inductive SystemError
  | notFound
  | permissionDenied
  | notADirectory
  | isADirectory
  | nameTooLong
  | tooManyLinks
  /-- A name holds the character that ends names. -/
  | endInsideName
  /-- The same in the arguments of a program. -/
  | endInsideArgument
  deriving DecidableEq, Repr

def SystemError.message : SystemError → String
  | notFound => "No such file or directory (os error 2)"
  | permissionDenied => "Permission denied (os error 13)"
  | notADirectory => "Not a directory (os error 20)"
  | isADirectory => "Is a directory (os error 21)"
  | nameTooLong => "File name too long (os error 36)"
  | tooManyLinks => "Too many levels of symbolic links (os error 40)"
  | endInsideName => "file name contained an unexpected NUL byte"
  | endInsideArgument => "nul byte found in provided data"

namespace Tree

/-- What is at a place. A place above an entry is a directory. -/
def entryAt? (tree : Tree) (place : Place) : Option Entry :=
  match tree.entries.find? fun e => e.1 == place with
  | some e => some e.2
  | none =>
    if place.isEmpty || tree.entries.any (fun e => place.isPrefixOf e.1) then some .directory
    else none

/-- Names of a path to be resolved. A separator at the end asks for a directory. -/
def steps (p : Path) : List Text :=
  let named := (Path.parts p).filter fun c => !c.isEmpty
  if p.getLast? = some '/' then named ++ [Path.dot] else named

structure Resolved where
  place : Place
  entry : Entry

/-- Bytes that a name may have. -/
def nameLimit : Nat := 255

/-- Bytes that a path may have, with the end of it. -/
def pathLimit : Nat := 4096

/-- Resolve names from a place. The fuel counts the links that may still be followed. -/
def resolveFrom (tree : Tree) : Nat → Place → List Text → Except SystemError Resolved
  | _, place, [] =>
    match tree.entryAt? place with
    | some e => .ok ⟨place, e⟩
    | none => .error .notFound
  | fuel, place, name :: names =>
    if tree.entryAt? place ≠ some .directory then .error .notADirectory
    else if name = Path.dot then resolveFrom tree fuel place names
    else if name = Path.dotDot then resolveFrom tree fuel place.dropLast names
    else if Text.byteSize name > nameLimit then .error .nameTooLong
    else
      match tree.entryAt? (place ++ [name]), fuel with
      | none, _ => .error .notFound
      | some (.link _), 0 => .error .tooManyLinks
      | some (.link target), fuel + 1 =>
        let start := if target.head? = some '/' then [] else place
        resolveFrom tree fuel start (steps target ++ names)
      | some _, fuel => resolveFrom tree fuel (place ++ [name]) names
termination_by fuel _ names => (fuel, names.length)

/-- Links that may be followed in one path. -/
def linkLimit : Nat := 40

/-- Where the first name of a path is looked for. -/
def startOf (tree : Tree) (p : Path) : Place := if p.head? = some '/' then [] else tree.home

/-- What is wrong with a path whatever it leads to. -/
def flaw? (p : Path) : Option SystemError :=
  if p.any (· == '\x00') then some .endInsideName
  else if p.isEmpty then some .notFound
  else if Text.byteSize p ≥ pathLimit then some .nameTooLong
  else none

/-- What a path leads to. -/
def resolve (tree : Tree) (p : Path) : Except SystemError Resolved :=
  match flaw? p with
  | some e => .error e
  | none => resolveFrom tree linkLimit (tree.startOf p) (steps p)

def exists? (tree : Tree) (p : Path) : Bool :=
  match tree.resolve p with
  | .ok _ => true
  | .error _ => false

/-- The place of a directory. -/
def directory? (tree : Tree) (p : Path) : Option Place :=
  match tree.resolve p with
  | .ok ⟨place, .directory⟩ => some place
  | _ => none

/-- Why a file cannot be read as text. -/
inductive ReadError
  | system (cause : SystemError)
  | notText
  deriving DecidableEq, Repr

def ReadError.message : ReadError → String
  | system cause => cause.message
  | notText => "stream did not contain valid UTF-8"

def readText (tree : Tree) (p : Path) : Except ReadError Text :=
  match tree.resolve p with
  | .error e => .error (.system e)
  | .ok ⟨_, .file bytes⟩ =>
    match Text.ofBytes? bytes with
    | some t => .ok t
    | none => .error .notText
  | .ok ⟨_, .device⟩ => .ok []
  | .ok _ => .error (.system .isADirectory)

/-- Order of names by their characters. -/
def nameBefore (a b : Text) : Bool := !Text.before b a

/-- Order of a walk in which the entries of each directory are visited by name. -/
def placeBefore : Place → Place → Bool
  | [], _ => true
  | _ :: _, [] => false
  | a :: as, b :: bs => if a = b then placeBefore as bs else nameBefore a b

def insertPlace (p : Place) : List Place → List Place
  | [] => [p]
  | q :: qs => if placeBefore p q then p :: q :: qs else q :: insertPlace p qs

/-- The rest of a place below a directory. -/
def below? (directory place : Place) : Option Place :=
  match List.isPrefixOf? directory place with
  | some [] => none
  | some rest => some rest
  | none => none

/-- The regular files below a directory, directory by directory in the order of names. -/
def filesBelow (tree : Tree) (directory : Place) : List Place :=
  let found := tree.entries.filterMap fun e =>
    match e.2 with
    | .file _ => below? directory e.1
    | _ => none
  found.foldr insertPlace []

end Tree

end Exemplar.Files
