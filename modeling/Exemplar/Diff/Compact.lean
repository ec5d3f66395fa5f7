import Exemplar.Diff.Edit

/-!
# Compacting a script

Deletions, and then insertions, slide over the kept lines around them as far as the
lines allow, first up and then down, and join edits of their kind on the way. A slide
exchanges equal lines, so both texts of the script stay as they are.
-/
namespace Exemplar.Diff

/-- A script with one edit in focus; the edits before it are in reverse order. -/
structure Focus where
  before : List Edit
  this : Edit
  after : List Edit

namespace Focus

def toScript (f : Focus) : Script := f.before.reverse ++ f.this :: f.after

/-- Lines of an insertion. A deletion cannot slide, so it shows no lines. -/
def sliding (e : Edit) : List Text :=
  match e.kind with
  | .insert => e.lines
  | _ => []

/-- Edits and lines of a list, the measure of a slide. -/
def weight : List Edit → Nat
  | [] => 0
  | e :: es => e.lines.length + 1 + weight es

/-- The edit with its lines exchanged for others and its places moved. -/
def moved (e : Edit) (lines : List Text) (oldAt newAt : Nat) : Edit := ⟨e.kind, lines, oldAt, newAt⟩

/-- Put kept lines before the first of the edits, or make them an edit of their own. -/
def growFront (lines : List Text) (oldAt newAt : Nat) : List Edit → List Edit
  | e :: es =>
    if e.kind = .equal then
      ⟨.equal, lines ++ e.lines, e.oldAt - lines.length, e.newAt - lines.length⟩ :: es
    else ⟨.equal, lines, oldAt, newAt⟩ :: e :: es
  | [] => [⟨.equal, lines, oldAt, newAt⟩]

/-- Put kept lines behind the last edit of a reversed list. -/
def growBack (lines : List Text) (oldAt newAt : Nat) : List Edit → List Edit
  | e :: es =>
    if e.kind = .equal then ⟨.equal, e.lines ++ lines, e.oldAt, e.newAt⟩ :: es
    else ⟨.equal, lines, oldAt, newAt⟩ :: e :: es
  | [] => [⟨.equal, lines, oldAt, newAt⟩]

/-- Slide the edit in focus up as far as possible. -/
def up (f : Focus) : Focus :=
  match _hb : f.before with
  | [] => f
  | prev :: rest =>
    let this := f.this
    if prev.kind = .equal then
      let shared := commonEnd prev.lines (sliding this)
      let n := shared.length
      if _h : 0 < n ∧ n ≤ prev.lines.length then
        let left := prev.lines.take (prev.lines.length - n)
        let after := growFront shared (prev.oldAt + prev.lines.length - n)
          (this.newAt + this.lines.length - n) f.after
        let slid := moved this (shared ++ this.lines.take (this.lines.length - n))
          (this.oldAt - n) (this.newAt - n)
        if left.isEmpty then up ⟨rest, slid, after⟩
        else up ⟨⟨.equal, left, prev.oldAt, prev.newAt⟩ :: rest, slid, after⟩
      else if prev.lines.isEmpty then up ⟨rest, this, f.after⟩
      else f
    else if prev.kind = this.kind then
      up ⟨rest, ⟨this.kind, prev.lines ++ this.lines, prev.oldAt, prev.newAt⟩, f.after⟩
    else up ⟨rest, this, prev :: f.after⟩
termination_by weight f.before
decreasing_by
  all_goals rw [_hb]
  all_goals simp +zetaDelta only [weight, List.length_take] at *
  all_goals omega

/-- Slide the edit in focus down as far as possible. -/
def down (f : Focus) : Focus :=
  match _ha : f.after with
  | [] => f
  | next :: rest =>
    let this := f.this
    if next.kind = .equal then
      let shared := commonStart next.lines (sliding this)
      let n := shared.length
      if _h : 0 < n ∧ n ≤ next.lines.length then
        let left := next.lines.drop n
        let before := growBack shared next.oldAt this.newAt f.before
        let slid := moved this (this.lines.drop n ++ shared) (this.oldAt + n) (this.newAt + n)
        if left.isEmpty then down ⟨before, slid, rest⟩
        else down ⟨before, slid, ⟨.equal, left, next.oldAt + n, next.newAt + n⟩ :: rest⟩
      else if next.lines.isEmpty then down ⟨f.before, this, rest⟩
      else f
    else if next.kind = this.kind then
      down ⟨f.before, ⟨this.kind, this.lines ++ next.lines, this.oldAt, this.newAt⟩, rest⟩
    else down ⟨next :: f.before, this, rest⟩
termination_by weight f.after
decreasing_by
  all_goals rw [_ha]
  all_goals simp +zetaDelta only [weight, List.length_drop] at *
  all_goals omega

end Focus

/-- Slide every edit of one kind, from the first to the last. An edit may slide up behind
edits that were passed already, so the fuel allows for every edit once per line. -/
def slideAll (kind : Kind) (before : List Edit) : Nat → List Edit → Script
  | 0, rest => before.reverse ++ rest
  | _ + 1, [] => before.reverse
  | fuel + 1, e :: es =>
    if e.kind = kind then
      let f := Focus.down (Focus.up ⟨before, e, es⟩)
      slideAll kind (f.this :: f.before) fuel f.after
    else slideAll kind (e :: before) fuel es

/-- Slide the deletions, then the insertions. -/
def compact (s : Script) : Script :=
  let fuel := (Focus.weight s + 1) * (Focus.weight s + 1)
  slideAll .insert [] fuel (slideAll .delete [] fuel s)

end Exemplar.Diff
