import Exemplar.Diff.Edit

/-!
# A short edit script by divide and conquer

Common lines at both ends are kept. The middle of a shortest path through the edit graph
of what is left is found by searching from both ends at once, and both halves are solved
in the same way. A split that leaves one half as large as the whole is not used, so the
recursion ends; whatever the split is, the script spells both texts.
-/
namespace Exemplar.Diff

/-- The furthest place reached on each diagonal, from one end. -/
structure Frontier where
  reached : Array Nat
  centre : Nat

namespace Frontier

def start (size : Nat) : Frontier := ⟨Array.replicate (2 * size + 3) 0, size + 1⟩

def get (f : Frontier) (k : Int) : Nat := f.reached.getD (k + f.centre).toNat 0

def put (f : Frontier) (k : Int) (x : Nat) : Frontier :=
  ⟨f.reached.setIfInBounds (k + f.centre).toNat x, f.centre⟩

/-- Where a path with `d` edits enters diagonal `k`. -/
def enter (f : Frontier) (d k : Int) : Nat :=
  if k = -d ∨ (k ≠ d ∧ f.get (k - 1) < f.get (k + 1)) then f.get (k + 1) else f.get (k - 1) + 1

end Frontier

/-- Length of the common run from `x` in `a` and `y` in `b`, of at most `fuel` lines. -/
def runLength (a b : Array Text) (x y : Nat) : Nat → Nat
  | 0 => 0
  | fuel + 1 =>
    match a[x]?, b[y]? with
    | some l, some r => if l = r then runLength a b (x + 1) (y + 1) fuel + 1 else 0
    | _, _ => 0

/-- How far diagonal `k` is followed from `x`. -/
def follow (a b : Array Text) (x : Nat) (k : Int) : Nat :=
  let y : Int := x - k
  if y < 0 then x else x + runLength a b x y.toNat a.size

/-- Both texts, forward and backward, and the search from both ends. -/
structure Search where
  old : Array Text
  new : Array Text
  oldBack : Array Text
  newBack : Array Text
  forward : Frontier
  backward : Frontier

namespace Search

def delta (s : Search) : Int := (s.old.size : Int) - s.new.size

/-- A forward step on diagonal `k`; a meeting gives the split. -/
def stepForward (s : Search) (d k : Int) : Search × Option (Int × Int) :=
  let entry := s.forward.enter d k
  let x := follow s.old s.new entry k
  let s' : Search := { s with forward := s.forward.put k x }
  let meets := s.delta % 2 ≠ 0 ∧ (k - s.delta).natAbs + 1 ≤ d ∧
    s.old.size ≤ x + s.backward.get (-(k - s.delta))
  (s', if meets then some (entry, entry - k) else none)

/-- A backward step on diagonal `k`; a meeting gives the split. -/
def stepBackward (s : Search) (d k : Int) : Search × Option (Int × Int) :=
  let x := follow s.oldBack s.newBack (s.backward.enter d k) k
  let s' : Search := { s with backward := s.backward.put k x }
  let meets := s.delta % 2 = 0 ∧ (k - s.delta).natAbs ≤ d ∧
    s.old.size ≤ x + s.forward.get (-(k - s.delta))
  (s', if meets then some ((s.old.size : Int) - x, (s.new.size : Int) - (x - k)) else none)

/-- Steps on diagonals `k`, `k - 2` and so on, until one meets. -/
def sweep (step : Search → Int → Search × Option (Int × Int)) (s : Search) (k : Int) :
    Nat → Search × Option (Int × Int)
  | 0 => (s, none)
  | count + 1 =>
    match step s k with
    | (s', some split) => (s', some split)
    | (s', none) => sweep step s' (k - 2) count

/-- Paths with `d` edits, then with one more, for a number of rounds. -/
def rounds (s : Search) (d : Nat) : Nat → Option (Int × Int)
  | 0 => none
  | more + 1 =>
    match sweep (fun s k => s.stepForward d k) s d (d + 1) with
    | (_, some split) => some split
    | (s', none) =>
      match sweep (fun s k => s.stepBackward d k) s' d (d + 1) with
      | (_, some split) => some split
      | (s'', none) => rounds s'' (d + 1) more

end Search

/-- A place on a shortest path: how many lines of both texts lie before it. -/
def middle (old new : List Text) : Option (Nat × Nat) :=
  let size := (old.length + new.length + 1) / 2 + 1
  let s : Search :=
    ⟨old.toArray, new.toArray, old.reverse.toArray, new.reverse.toArray,
      Frontier.start size, Frontier.start size⟩
  (s.rounds 0 size).bind fun split =>
    if split.1 < 0 ∨ split.2 < 0 then none else some (split.1.toNat, split.2.toNat)

def keep (oldAt newAt : Nat) (lines : List Text) : Script :=
  if lines.isEmpty then [] else [⟨.equal, lines, oldAt, newAt⟩]

/-- Delete the old lines and insert the new ones. -/
def replaceAll (oldAt newAt : Nat) (old new : List Text) : Script :=
  (if old.isEmpty then [] else [⟨.delete, old, oldAt, newAt⟩]) ++
    (if new.isEmpty then [] else [⟨.insert, new, oldAt, newAt⟩])

/-- The lists without a common beginning and a common end. -/
structure Trimmed where
  start : List Text
  old : List Text
  new : List Text
  stop : List Text

def Trimmed.of (old new : List Text) : Trimmed :=
  let start := commonStart old new
  let old' := old.drop start.length
  let new' := new.drop start.length
  let stop := commonEnd old' new'
  ⟨start, old'.take (old'.length - stop.length), new'.take (new'.length - stop.length), stop⟩

theorem Trimmed.length_le (old new : List Text) :
    (Trimmed.of old new).old.length ≤ old.length ∧
      (Trimmed.of old new).new.length ≤ new.length := by
  simp only [Trimmed.of, List.length_take, List.length_drop]
  omega

/-- The script of two lists that begin at the given places. -/
def script (oldAt newAt : Nat) (old new : List Text) : Script :=
  let t := Trimmed.of old new
  let o := oldAt + t.start.length
  let n := newAt + t.start.length
  let inner :=
    if t.old.isEmpty || t.new.isEmpty then replaceAll o n t.old t.new
    else match middle t.old t.new with
      | some (x, y) =>
        if _h : 0 < x + y ∧ x ≤ t.old.length ∧ y ≤ t.new.length ∧
            x + y < t.old.length + t.new.length then
          script o n (t.old.take x) (t.new.take y) ++
            script (o + x) (n + y) (t.old.drop x) (t.new.drop y)
        else replaceAll o n t.old t.new
      | none => replaceAll o n t.old t.new
  keep oldAt newAt t.start ++ inner ++ keep (o + t.old.length) (n + t.new.length) t.stop
termination_by old.length + new.length
decreasing_by
  · have : t.old.length ≤ old.length ∧ t.new.length ≤ new.length := Trimmed.length_le old new
    change (t.old.take x).length + (t.new.take y).length < old.length + new.length
    simp only [List.length_take]
    omega
  · have : t.old.length ≤ old.length ∧ t.new.length ≤ new.length := Trimmed.length_le old new
    change (t.old.drop x).length + (t.new.drop y).length < old.length + new.length
    simp only [List.length_drop]
    omega

end Exemplar.Diff
