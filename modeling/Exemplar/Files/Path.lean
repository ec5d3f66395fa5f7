import Exemplar.Text.Lines

/-!
# Paths

A path is a text; two paths are the same if their components are. Empty components
count nothing, and a dot counts only at the beginning of a relative path. Names
are read as UTF-8, so a file with another kind of name has no path here.
-/
namespace Exemplar

abbrev Path := Text

namespace Path

def dot : Text := ['.']

def dotDot : Text := ['.', '.']

/-- Stands for the root in front of the other components. -/
def root : Text := ['/']

/-- What stands between the separators. -/
def parts (p : Path) : List Text := Text.splitBy (· == '/') p

/-- Components without those that count nothing. -/
def plain (ps : List Text) : List Text := ps.filter fun c => !c.isEmpty && c != dot

def components (p : Path) : List Text :=
  match parts p with
  | [] => []
  | [] :: rest => if p.isEmpty then [] else root :: plain rest
  | first :: rest => if first = dot then dot :: plain rest else plain (first :: rest)

/-- Equality of paths, component by component. -/
def same (p q : Path) : Bool := components p == components q

/-- At another path or below it. -/
def isWithin (p ancestor : Path) : Bool := (components ancestor).isPrefixOf (components p)

/-- A name inside a directory. -/
def child (p : Path) (name : Text) : Path :=
  match p.getLast? with
  | none => name
  | some c => if c = '/' then p ++ name else p ++ '/' :: name

/-- A path inside a directory. -/
def descend (p : Path) (names : List Text) : Path := names.foldl child p

/-- The last component, unless it is the root or consists of dots. -/
def fileName? (p : Path) : Option Text :=
  match (components p).getLast? with
  | none => none
  | some c => if c = root ∨ c = dot ∨ c = dotDot then none else some c

/-- What follows the last dot of a file name. A dot that begins the name does not count. -/
def extensionOf? (name : Text) : Option Text :=
  match (Text.splitBy (· == '.') name).reverse with
  | [] => none
  | [_] => none
  | [last, before] => if before.isEmpty then none else some last
  | last :: _ => some last

def extension? (p : Path) : Option Text := (fileName? p).bind extensionOf?

end Path

end Exemplar
