import Exemplar.Text.Basic

/-!
# Edit scripts

A script turns one list of lines into another by keeping, deleting and inserting runs of
lines. Every edit carries its lines, so the two texts of a script can be read off it; the
places in both texts are noted beside them for the headers of a listing.
-/
namespace Exemplar.Diff

/-- Cut behind every line ending: a line feed, a carriage return, or both in this order. -/
def splitLines : Text → List Text
  | [] => []
  | '\r' :: '\n' :: t => ['\r', '\n'] :: splitLines t
  | c :: t =>
    if c = '\n' ∨ c = '\r' then [c] :: splitLines t
    else match splitLines t with
      | [] => [[c]]
      | l :: ls => (c :: l) :: ls

inductive Kind
  | equal
  | delete
  | insert
  deriving DecidableEq, Repr

structure Edit where
  kind : Kind
  lines : List Text
  oldAt : Nat
  newAt : Nat
  deriving DecidableEq, Repr

namespace Edit

/-- Lines of the old text. -/
def old (e : Edit) : List Text :=
  match e.kind with
  | .insert => []
  | _ => e.lines

/-- Lines of the new text. -/
def new (e : Edit) : List Text :=
  match e.kind with
  | .delete => []
  | _ => e.lines

end Edit

abbrev Script := List Edit

namespace Script

def old (s : Script) : List Text := s.flatMap Edit.old

def new (s : Script) : List Text := s.flatMap Edit.new

end Script

/-- Lines at the beginning of both lists. -/
def commonStart : List Text → List Text → List Text
  | a :: as, b :: bs => if a = b then a :: commonStart as bs else []
  | _, _ => []

/-- Lines at the end of both lists. -/
def commonEnd (as bs : List Text) : List Text := (commonStart as.reverse bs.reverse).reverse

end Exemplar.Diff
