import Exemplar.Shell.Glob
import Exemplar.Text.Basic

/-!
# Fields

An expanded word is a row of atoms. Fields end at separators, but only inside of regions:
what stands in a script itself is never split. Blank separators in a row count once; any
other separator ends a field each time.
-/
namespace Exemplar.Shell

inductive Atom
  /-- A character at which no field ends. -/
  | fixed (quoted : Bool) (c : Char)
  /-- A region begins. In a region of arguments only the gaps between them separate. -/
  | region (gapsOnly : Bool)
  /-- A character inside of a region. -/
  | loose (quoted : Bool) (c : Char)
  /-- Quotes, even if there is nothing in them. -/
  | mark
  deriving DecidableEq, Repr

namespace Atom

/-- What separates the arguments of a list. -/
def gap : Char := '\x00'

/-- The atoms of a value. -/
def ofValue (quoted : Bool) (t : Text) : List Atom :=
  if quoted then t.map (fixed true) else region false :: t.map (loose false)

/-- The text of atoms that are not split. -/
def text (as : List Atom) : Text :=
  as.filterMap fun a =>
    match a with
    | fixed _ c => some c
    | loose _ c => some c
    | _ => none

/-- The characters of atoms with the mark of quotation, as a pattern needs them. -/
def marked (as : List Atom) : Range.Marked :=
  as.filterMap fun a =>
    match a with
    | fixed q c => some (c, q)
    | loose q c => some (c, q)
    | _ => none

end Atom

namespace Field

def defaultSeparators : Text := " \t\n".toList

/-- A field while it grows. -/
structure Growing where
  done : List Range.Marked
  /-- The characters of the field, latest first. -/
  field : Range.Marked
  /-- Quotes belong to the field. -/
  hasMark : Bool
  gapsOnly : Bool
  afterGaps : Bool
  /-- The last field was ended by a blank separator. -/
  afterBlank : Bool
  /-- How many fields may still be ended, if that is limited. -/
  left : Option Nat
  /-- The length at which the last field is cut. -/
  cut : Option Nat

namespace Growing

def start (left : Option Nat) : Growing := ⟨[], [], false, false, false, false, left, none⟩

def isEmpty (g : Growing) : Bool := g.field.isEmpty && !g.hasMark

def add (x : Char × Bool) (g : Growing) : Growing := { g with field := x :: g.field }

def clear (g : Growing) : Growing := { g with field := [], hasMark := false }

def finish (g : Growing) : Growing := { g.clear with done := g.field.reverse :: g.done }

/-- A character of a region once all fields but the last are ended. -/
def last (x : Char × Bool) (isSeparator isBlank : Bool) (g : Growing) : Growing :=
  if isBlank then { g.add x with cut := some (g.cut.getD g.field.length) }
  else
    let cut := if isSeparator && g.afterBlank then g.cut else none
    { g.add x with cut, afterBlank := false }

/-- A character of a region that is no separator, or a separator that ends a field. -/
def next (x : Char × Bool) (isSeparator isBlank : Bool) (g : Growing) : Growing :=
  if isSeparator then
    let g := if g.afterGaps || g.gapsOnly then g else { g with afterBlank := isBlank }
    if g.isEmpty && g.afterBlank then { g.clear with afterBlank := false }
    else match g.left with
      | some 1 => { g.add x with left := some 0, cut := some g.field.length }
      | some n => { g.finish with left := some (n - 1) }
      | none => g.finish
  else { g.add x with afterBlank := false }

def loose (separators : Text) (x : Char × Bool) (g : Growing) : Growing :=
  let isSeparator := x.1 == Atom.gap || (!g.gapsOnly && separators.any (· == x.1))
  let isBlank := isSeparator && (x.1 == Atom.gap || defaultSeparators.any (· == x.1))
  if g.left = some 0 then g.last x isSeparator isBlank
  else if g.afterBlank then
    if isBlank then g.clear
    else if isSeparator then { g.clear with afterBlank := false }
    else { g.clear.add x with afterBlank := false }
  else g.next x isSeparator isBlank

def step (separators : Text) (g : Growing) : Atom → Growing
  | .fixed q c => g.add (c, q)
  | .mark => { g with hasMark := true }
  | .region gapsOnly => { g with afterGaps := g.gapsOnly, gapsOnly, afterBlank := false }
  | .loose q c => g.loose separators (c, q)

/-- All fields once there are no more atoms. -/
def fields (g : Growing) : List Range.Marked :=
  if g.gapsOnly then g.finish.done.reverse
  else
    let g := match g.cut with
      | some n => { g with field := g.field.drop (g.field.length - n) }
      | none => g
    if g.isEmpty then g.done.reverse else g.finish.done.reverse

end Growing

/-- Split atoms into fields, into no more than `most` of them if that is given. -/
def split (separators : Text) (most : Option Nat) (as : List Atom) : List Range.Marked :=
  (as.foldl (Growing.step separators) (Growing.start most)).fields

end Field

end Exemplar.Shell
