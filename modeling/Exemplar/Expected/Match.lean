import Exemplar.Expected.Pattern
import Exemplar.Text.Search

/-!
# Matching output with a pattern

Literals are looked for in order, each at its first occurrence behind the previous one;
what lies between belongs to the wildcard there. The scan never goes back.
-/
namespace Exemplar.Expected
open Text

/-- Why output does not match. -/
inductive MismatchKind
  | literalNotFound
  | wildcardSpansLines
  | unexpectedTrailingOutput
  deriving DecidableEq, Repr

/-- Where matching failed: the segment, its literal, and the offset in the output. -/
structure Mismatch where
  segment : Nat
  literal : Text
  offset : Nat
  kind : MismatchKind
  deriving DecidableEq, Repr

structure Scan where
  mismatch : Option Mismatch
  captures : Captures
  deriving DecidableEq, Repr

namespace Scan

/-- How far a scan has come: segments and bytes passed, and what was captured. -/
structure State where
  segment : Nat
  offset : Nat
  captures : Captures

def start : State := ⟨0, 0, []⟩

def State.fail (s : State) (segment : Nat) (literal : Text) (kind : MismatchKind) : Scan :=
  ⟨some ⟨segment, literal, s.offset, kind⟩, s.captures⟩

/-- The captures with the text of a wildcard, if it has a name. -/
def State.capture (s : State) (name : Option Text) (t : Text) : Captures :=
  match name with
  | some n => s.captures ++ [(n, t)]
  | none => s.captures

/-- The text cannot belong to a wildcard that has to stay on its line. -/
def crosses (spanLines : Bool) (t : Text) : Bool := !spanLines && decide ('\n' ∈ t)

/-- What is left when all segments have been passed. -/
def finish (spanLines : Bool) (s : State) (pending : Option (Option Text)) (rest : Text) : Scan :=
  match pending with
  | some name =>
    if crosses spanLines rest then s.fail (s.segment - 1) [] .wildcardSpansLines
    else ⟨none, s.capture name rest⟩
  | none =>
    if rest.isEmpty then ⟨none, s.captures⟩ else s.fail s.segment [] .unexpectedTrailingOutput

/-- Scan the rest of the output with the segments that are left; `pending` is the
wildcard that has been passed but not filled. -/
def run (spanLines : Bool) (s : State) (pending : Option (Option Text)) (rest : Text) :
    List Segment → Scan
  | [] => finish spanLines s pending rest
  | .wildcard name :: segments =>
    run spanLines ⟨s.segment + 1, s.offset, s.captures⟩ (some name) rest segments
  | .literal l :: segments =>
    match pending with
    | none =>
      match stripPrefix? l rest with
      | none => s.fail s.segment l .literalNotFound
      | some after =>
        run spanLines ⟨s.segment + 1, s.offset + byteSize l, s.captures⟩ none after segments
    | some name =>
      match breakOn l rest with
      | none => s.fail s.segment l .literalNotFound
      | some (gap, after) =>
        if crosses spanLines gap then s.fail s.segment l .wildcardSpansLines
        else
          run spanLines
            ⟨s.segment + 1, s.offset + byteSize gap + byteSize l, s.capture name gap⟩
            none after segments

end Scan

/-- The result of a comparison; `actual` is the output in normal form. -/
structure MatchResult where
  mismatch : Option Mismatch
  captures : Captures
  actual : Text
  deriving DecidableEq, Repr

namespace MatchResult

def passed (r : MatchResult) : Bool := r.mismatch.isNone

/-- The expected text with what was captured filled in. -/
def expectedText (r : MatchResult) (p : Pattern) : Text := p.render r.captures

end MatchResult

/-- Compare output with a pattern. -/
def Pattern.matchOutput (p : Pattern) (output : Text) : MatchResult :=
  let actual := normalize p.comparison.normWs output
  let scan := Scan.run p.comparison.spanLines Scan.start none actual p.segments
  ⟨scan.mismatch, scan.captures, actual⟩

end Exemplar.Expected
