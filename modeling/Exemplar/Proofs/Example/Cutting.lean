import Exemplar.Proofs.Example.Segmentation
import Exemplar.Proofs.Text.Lines

/-!
# Cutting a text

A blank line and a line that begins an example belong to no example above them. So a text can
be cut behind a blank line, or before a blank line or a prompt: the items of the parts, one
behind the other, are the items of the text.
-/
namespace Exemplar

section
variable {α β : Type} {f : α → Option β} {a : α} {as bs : List α}

/-- An element without a value is left over. -/
lemma mem_takeMap (ha : a ∈ as) (hf : f a = none) : a ∈ (takeMap f as).2 := by
  induction as with
  | nil => cases ha
  | cons b as ih =>
    cases hb : f b with
    | none => simpa [takeMap, hb] using ha
    | some v =>
      rcases List.mem_cons.1 ha with rfl | ha
      · rw [hf] at hb
        cases hb
      · simpa [takeMap, hb] using ih ha

/-- What is taken does not depend on what follows if an element is left over, or if the first
one that follows has no value. -/
lemma takeMap_append (h : (∃ a ∈ as, f a = none) ∨ ∀ b ∈ bs.head?, f b = none) :
    takeMap f (as ++ bs) = ((takeMap f as).1, (takeMap f as).2 ++ bs) := by
  induction as with
  | nil =>
    cases bs with
    | nil => rfl
    | cons b bs =>
      have hb : f b = none := by simpa using h
      simp [takeMap, hb]
  | cons a as ih =>
    cases ha : f a with
    | none => simp [takeMap, ha]
    | some v =>
      have hrest : (∃ a ∈ as, f a = none) ∨ ∀ b ∈ bs.head?, f b = none := by
        simpa [ha] using h
      rw [List.cons_append, takeMap, takeMap, ha, ih hrest]

end

namespace Example
open Text Prompt

/-- The line belongs to no example above it. -/
def Parts (table : Table) (l : Text) : Prop :=
  allBlank l = true ∨ (table.primary? l).isSome = true

/-- The first of two parts ends in a blank line, or the second one begins with a line that
belongs to no example above it. -/
def Separate (table : Table) (ls ms : List Text) : Prop :=
  (∃ l, ls.getLast? = some l ∧ allBlank l = true) ∨ ∀ l ∈ ms.head?, Parts table l

variable {table : Table}

/-- A blank line continues no statement: continuation markers are not blank. -/
lemma not_continues_of_allBlank {p : Prompt} (hp : p.Proper) {indent l s : Text}
    (hl : allBlank l = true) : ¬ Continues table p indent l s := by
  rintro ⟨-, u, rfl, hu⟩
  have hblank : allBlank u = true :=
    allBlank_iff.2 fun c hc => allBlank_iff.1 hl c (List.mem_append_right _ hc)
  rw [trimStart_eq_nil.2 hblank] at hu
  rcases hu with hmarker | ⟨-, hbare, -⟩
  · exact hp.continuation_ne_nil (List.append_eq_nil_iff.1 hmarker.symm).1
  · exact hp.bare_ne_nil hbare.symm

namespace Parts
variable {l : Text} (h : Parts table l)
include h

lemma continuation?_eq_none {p : Prompt} (hp : p.Proper) (indent : Text) :
    continuation? table p indent l = none := by
  rcases h with hblank | hprimary
  · refine Option.eq_none_iff_forall_ne_some.2 fun s hs => ?_
    exact not_continues_of_allBlank hp hblank ((continuation?_eq_some hp).1 hs)
  · rw [continuation?, if_pos hprimary]

lemma output?_eq_none (indent : Text) : output? table indent l = none := by
  have hparts : (allBlank l || (table.primary? l).isSome) = true := Bool.or_eq_true_iff.2 h
  rw [output?, if_pos hparts]

end Parts

/-- The place with more lines below it. -/
def Place.above (ms : List Text) (q : Place) : Place := ⟨q.line, q.opening, q.below ++ ms⟩

/-- More lines below a text add places and stand below those that it has. -/
lemma places_append_below (line : Nat) (ls ms : List Text) :
    places table line (ls ++ ms) =
      (places table line ls).map (Place.above ms) ++ places table (line + ls.length) ms := by
  induction ls generalizing line with
  | nil => rfl
  | cons l ls ih =>
    have hlength : line + (l :: ls).length = line + 1 + ls.length := by
      rw [List.length_cons]
      omega
    rw [hlength, List.cons_append]
    cases hm : table.primary? l with
    | none => rw [places_of_none hm, places_of_none hm, ih]
    | some m =>
      rw [places_of_some hm, places_of_some hm, ih, List.map_cons, List.cons_append]
      rfl

/-- A blank line that ends the text stands below every place. -/
lemma mem_below_of_getLast? {line : Nat} {ls : List Text} {l : Text}
    (hl : ls.getLast? = some l) (hblank : allBlank l = true) {q : Place}
    (hq : q ∈ places table line ls) : l ∈ q.below := by
  obtain ⟨above, l', rfl, hm⟩ := exists_line_of_mem_places hq
  rw [List.getLast?_append_cons, List.getLast?_cons] at hl
  cases hbelow : q.below.getLast? with
  | some l'' =>
    obtain rfl : l'' = l := by simpa [hbelow] using hl
    exact List.mem_of_getLast? hbelow
  | none =>
    -- the place itself would be the blank line
    obtain rfl : l' = l := by simpa [hbelow] using hl
    rw [table.primary?_of_allBlank hblank] at hm
    cases hm

/-- An item is made of the lines up to where the text is cut. -/
lemma Place.item_above {q : Place} (hp : q.opening.prompt.Proper) {ms : List Text}
    (h : (∃ l ∈ q.below, Parts table l) ∨ ∀ l ∈ ms.head?, Parts table l) :
    (q.above ms).item table = q.item table := by
  let continues := continuation? table q.opening.prompt q.opening.indent
  let prints := output? table q.opening.indent
  have hmore : takeMap continues (q.below ++ ms) =
      ((takeMap continues q.below).1, (takeMap continues q.below).2 ++ ms) :=
    takeMap_append <| h.imp
      (fun ⟨l, hl, hparts⟩ => ⟨l, hl, hparts.continuation?_eq_none hp _⟩)
      fun hms l hl => (hms l hl).continuation?_eq_none hp _
  have hout : takeMap prints ((takeMap continues q.below).2 ++ ms) =
      ((takeMap prints (takeMap continues q.below).2).1,
        (takeMap prints (takeMap continues q.below).2).2 ++ ms) :=
    takeMap_append <| h.imp
      (fun ⟨l, hl, hparts⟩ =>
        ⟨l, mem_takeMap hl (hparts.continuation?_eq_none hp _), hparts.output?_eq_none _⟩)
      fun hms l hl => (hms l hl).output?_eq_none _
  show Example.item q.opening q.line (takeMap continues (q.below ++ ms)).1
    (takeMap prints (takeMap continues (q.below ++ ms)).2).1 = _
  rw [hmore, hout]
  rfl

/-- Lines that are cut in two make the items of both parts. -/
theorem itemsFrom_append (line : Nat) {ls ms : List Text} (h : Separate table ls ms) :
    Reader.itemsFrom table line (ls ++ ms) =
      Reader.itemsFrom table line ls ++ Reader.itemsFrom table (line + ls.length) ms := by
  rw [itemsFrom_eq_map, itemsFrom_eq_map, itemsFrom_eq_map, places_append_below, List.map_append,
    List.map_map]
  refine congrArg (· ++ _) (List.map_congr_left fun q hq => ?_)
  obtain ⟨_, _, _, hm⟩ := exists_line_of_mem_places hq
  refine Place.item_above (Table.opens_of_primary? hm).proper (h.imp_left ?_)
  rintro ⟨l, hl, hblank⟩
  exact ⟨l, mem_below_of_getLast? hl hblank hq, .inl hblank⟩

/-- A text whose first part ends with a line break can be cut behind it if a blank line stands
on either side, or a prompt line or nothing behind: the text has the items of the first part
and then those of the second, whose lines are numbered on. -/
theorem parse_append (table : Table) (first : Nat) {a b : Text} (ha : a.getLast? = some '\n')
    (h : (∃ l, (lines a).getLast? = some l ∧ allBlank l = true) ∨ b = [] ∨
      (∃ l, (lines b).head? = some l ∧ allBlank l = true) ∨
      ∃ l m, (lines b).head? = some l ∧ table.primary? l = some m) :
    parse table first (a ++ b) =
      parse table first a ++ parse table (first + (lines a).length) b := by
  have hseparate : Separate table (lines a) (lines b) := by
    rcases h with hblank | rfl | ⟨l, hl, hblank⟩ | ⟨l, m, hl, hm⟩
    · exact .inl hblank
    · exact .inr fun l hl => by cases hl
    · refine .inr fun l' hl' => ?_
      obtain rfl : l = l' := Option.some.inj (hl.symm.trans hl')
      exact .inl hblank
    · refine .inr fun l' hl' => ?_
      obtain rfl : l = l' := Option.some.inj (hl.symm.trans hl')
      exact .inr (by rw [hm]; rfl)
  show Reader.itemsFrom table first (lines (a ++ b)) = _
  rw [lines_append ha]
  exact itemsFrom_append first hseparate

/-- Behind the blank line a continuation marker continues nothing, in one text as in two. -/
theorem parse_append_continuation :
    ∃ a b : Text, a = ">>> f(1,\n...   2,\n\n".toList ∧ b = "...   3)\n$ ls\na".toList ∧
      a.getLast? = some '\n' ∧ (∃ l, (lines a).getLast? = some l ∧ allBlank l = true) ∧
      parse .standard 7 (a ++ b) = parse .standard 7 a ++ parse .standard 10 b ∧
      parse .standard 7 (a ++ b) =
        [.ok ⟨"python", ["f(1,".toList, "  2,".toList], [], 7, [], Options.none⟩,
          .ok ⟨"shell", ["ls".toList], ["a".toList], 11, [], Options.none⟩] := by
  let a : Text := ">>> f(1,\n...   2,\n\n".toList
  let b : Text := "...   3)\n$ ls\na".toList
  have ha : a.getLast? = some '\n' := by decide
  have hblank : ∃ l, (lines a).getLast? = some l ∧ allBlank l = true := ⟨[], by decide, rfl⟩
  have hcut : parse .standard 7 (a ++ b) = parse .standard 7 a ++ parse .standard 10 b :=
    parse_append .standard 7 ha (.inl hblank)
  refine ⟨a, b, rfl, rfl, ha, hblank, hcut, ?_⟩
  rw [hcut]
  decide +kernel

end Example

end Exemplar
