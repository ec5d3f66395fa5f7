import Exemplar.Diff.Compact
import Exemplar.Diff.Myers

/-!
# Listings of a difference

Neighbouring edits are gathered into changes. A difference is shown as the two texts one
below the other, as a list of all lines with a sign in front of each, or as hunks of
changed lines with three lines of context.
-/
namespace Exemplar.Diff

/-- Lines that both texts share at some place, or lines removed and lines added there. -/
inductive Change
  | same (oldAt newAt : Nat) (lines : List Text)
  | edit (oldAt newAt : Nat) (removed added : List Text)
  deriving DecidableEq, Repr

namespace Change

def old : Change → List Text
  | same _ _ lines => lines
  | edit _ _ removed _ => removed

def new : Change → List Text
  | same _ _ lines => lines
  | edit _ _ _ added => added

def oldAt : Change → Nat
  | same o _ _ => o
  | edit o _ _ _ => o

def newAt : Change → Nat
  | same _ n _ => n
  | edit _ n _ _ => n

end Change

/-- Edits between two runs of kept lines: the first deletion and the first insertion say
where the change is. -/
structure Pending where
  removed : Option Edit
  added : Option Edit

namespace Pending

def none : Pending := ⟨.none, .none⟩

def join (e : Edit) : Option Edit → Option Edit
  | .none => some e
  | some first => some ⟨first.kind, first.lines ++ e.lines, first.oldAt, first.newAt⟩

/-- The change that the edits make together. -/
def change (p : Pending) : List Change :=
  match p.removed, p.added with
  | some d, some i => [.edit d.oldAt i.newAt d.lines i.lines]
  | some d, .none => [.edit d.oldAt d.newAt d.lines []]
  | .none, some i => [.edit i.oldAt i.newAt [] i.lines]
  | .none, .none => []

end Pending

/-- Kept lines and changes by turns. -/
def gather (p : Pending) : Script → List Change
  | [] => p.change
  | e :: es =>
    match e.kind with
    | .delete => gather ⟨Pending.join e p.removed, p.added⟩ es
    | .insert => gather ⟨p.removed, Pending.join e p.added⟩ es
    | .equal =>
      p.change ++
        match gather Pending.none es with
        | .same _ _ lines :: rest => .same e.oldAt e.newAt (e.lines ++ lines) :: rest
        | rest => .same e.oldAt e.newAt e.lines :: rest

/-- The changes from one text to another. -/
def changes (expected actual : Text) : List Change :=
  gather Pending.none (compact (script 0 0 (splitLines expected) (splitLines actual)))

/-- A line with a sign in front, and exactly one break behind. -/
def signed (sign : Text) (l : Text) : Text :=
  let body := l.reverse.dropWhile (· == '\n')
  sign ++ body.reverse ++ ['\n']

/-- All lines of a change; what is removed stands before what is added. -/
def Change.listing : Change → Text
  | same _ _ lines => lines.flatMap (signed [' ', ' '])
  | edit _ _ removed added =>
    removed.flatMap (signed ['-', ' ']) ++ added.flatMap (signed ['+', ' '])

/-- Every line of both texts, signed. -/
def ndiff (expected actual : Text) : Text := (changes expected actual).flatMap Change.listing

/-- Lines of context around a change. -/
def context : Nat := 3

abbrev Hunk := List Change

/-- Kept lines without the first `n`. -/
def Change.dropSame (n : Nat) : Change → Change
  | same o w lines => .same (o + n) (w + n) (lines.drop n)
  | c => c

def Change.takeSame (n : Nat) : Change → Change
  | same o w lines => .same o w (lines.take n)
  | c => c

/-- Only the last lines of context of a change that comes first. -/
def trimFirst : List Change → List Change
  | .same o n lines :: rest => (Change.same o n lines).dropSame (lines.length - context) :: rest
  | cs => cs

/-- Only the first lines of context of a change that comes last. -/
def trimLast : List Change → List Change
  | [] => []
  | [c] => [c.takeSame context]
  | c :: cs => c :: trimLast cs

/-- Changes in hunks: kept lines that are more than two contexts long end one hunk and
begin the next. A last hunk without a change is left out. -/
def hunksFrom (hunk : Hunk) : List Change → List Hunk
  | [] =>
    match hunk with
    | [] => []
    | [.same _ _ _] => []
    | _ => [hunk.reverse]
  | .same o n lines :: rest =>
    let c := Change.same o n lines
    if 2 * context < lines.length then
      (c.takeSame context :: hunk).reverse :: hunksFrom [c.dropSame (lines.length - context)] rest
    else hunksFrom (c :: hunk) rest
  | c :: rest => hunksFrom (c :: hunk) rest

def hunks (cs : List Change) : List Hunk := hunksFrom [] (trimLast (trimFirst cs))

/-- A range of lines in a header; an empty one names the line before it. -/
def rangeText (start stop : Nat) : Text :=
  let n := stop - start
  if n = 1 then Text.ofNat (start + 1)
  else (if n = 0 then Text.ofNat start else Text.ofNat (start + 1)) ++ ',' :: Text.ofNat n

def Hunk.header (h : Hunk) : Text :=
  match h.head?, h.getLast? with
  | some a, some z =>
    "@@ -".toList ++ rangeText a.oldAt (z.oldAt + z.old.length) ++ " +".toList ++
      rangeText a.newAt (z.newAt + z.new.length) ++ " @@\n".toList
  | _, _ => []

/-- A line of a hunk as it stands, with a note if nothing ends it. -/
def hunkLine (sign : Char) (l : Text) : Text :=
  let ended := match l.getLast? with
    | some c => c == '\n' || c == '\r'
    | none => false
  sign :: l ++ if ended then [] else "\n\\ No newline at end of file\n".toList

def Change.hunkLines : Change → Text
  | same _ _ lines => lines.flatMap (hunkLine ' ')
  | edit _ _ removed added => removed.flatMap (hunkLine '-') ++ added.flatMap (hunkLine '+')

def Hunk.text (h : Hunk) : Text := h.header ++ h.flatMap Change.hunkLines

/-- Hunks below a header; nothing if the texts do not differ. -/
def unified (expected actual : Text) : Text :=
  match hunks (changes expected actual) with
  | [] => []
  | hs => "--- expected\n+++ got\n".toList ++ hs.flatMap Hunk.text

/-- How a mismatch is shown. -/
inductive Mode
  | none
  | unified
  | ndiff
  deriving DecidableEq, Repr

namespace Mode

def standard : Mode := .none

def name : Mode → String
  | none => "none"
  | unified => "unified"
  | ndiff => "ndiff"

def all : List Mode := [.none, .unified, .ndiff]

def named? (s : String) : Option Mode := all.find? fun m => m.name == s

def unknownMessage (s : String) : String := s!"unknown diff mode `{s}`"

end Mode

/-- Both texts, one below the other. -/
def both (expected actual : Text) : Text :=
  "Expected:\n".toList ++ expected ++ "\n\nGot:\n".toList ++ actual ++ ['\n']

def render (mode : Mode) (expected actual : Text) : Text :=
  match mode with
  | .none => both expected actual
  | .unified => unified expected actual
  | .ndiff => ndiff expected actual

end Exemplar.Diff
