import Exemplar.Proofs.Example.Segmentation
import Exemplar.Proofs.Text.Lines

/-!
# Indented text

Blanks in front of every line of a text stand in front of the indentation of its examples and
change nothing else: a line is read behind its indentation, and of a continued statement or of
output the indentation of the prompt is taken off as a whole.
-/
namespace Exemplar

/-- Taking from a mapped list. -/
lemma takeMap_map {α β γ : Type} {f : β → Option γ} {g : α → Option γ} {k : α → β}
    (h : ∀ a, f (k a) = g a) (as : List α) :
    takeMap f (as.map k) = ((takeMap g as).1, (takeMap g as).2.map k) := by
  induction as with
  | nil => rfl
  | cons a as ih =>
    rw [List.map_cons, takeMap, takeMap, h a, ih]
    cases g a <;> rfl

namespace Text

lemma indent_append {w : Text} (hw : allBlank w = true) (t : Text) :
    indent (w ++ t) = w ++ indent t :=
  List.takeWhile_append_of_pos (allBlank_iff.1 hw)

lemma allBlank_append {w : Text} (hw : allBlank w = true) (t : Text) :
    allBlank (w ++ t) = allBlank t := by
  unfold allBlank at *
  rw [List.all_append, hw, Bool.true_and]

/-- What both texts begin with can be left out. -/
lemma stripPrefix?_append_left (w p t : Text) :
    stripPrefix? (w ++ p) (w ++ t) = stripPrefix? p t := by
  induction w with
  | nil => rfl
  | cons c w ih =>
    rw [List.cons_append, List.cons_append, stripPrefix?, if_pos rfl, ih]

/-- The text with `w` in front of each of its lines. -/
def indentLines (w t : Text) : Text := (splitInclusive t).flatMap (w ++ ·)

/-- The lines of an indented text are the lines of the text, indented. -/
theorem lines_indentLines {w : Text} (hn : '\n' ∉ w) (hr : w.getLast? ≠ some '\r') (t : Text) :
    lines (indentLines w t) = (lines t).map (w ++ ·) := by
  unfold indentLines
  induction t using lineInduction with
  | nil => rfl
  | last l hne hl =>
    have hwl : '\n' ∉ w ++ l := by simp [hn, hl]
    rw [splitInclusive_of_not_mem hl hne, lines_of_not_mem hl hne, List.flatMap_singleton,
      lines_of_not_mem hwl (by simp [hne])]
    rfl
  | line l t hl ih =>
    have hwl : '\n' ∉ w ++ l := by simp [hn, hl]
    have hfront : w ++ (l ++ ['\n']) ++ (splitInclusive t).flatMap (w ++ ·) =
        (w ++ l) ++ '\n' :: (splitInclusive t).flatMap (w ++ ·) := by simp
    rw [splitInclusive_append_newline_cons hl, List.flatMap_cons, hfront, lines_newline_cons hwl, ih,
      lines_newline_cons hl, dropReturn_append hr, List.map_cons]

lemma eq_of_mem_isIndentation {w : Text} (hw : isIndentation w = true) {c : Char} (hc : c ∈ w) :
    c = ' ' ∨ c = '\t' := by
  simpa using List.all_eq_true.1 hw c hc

end Text

namespace Prompt.Table
open Text

/-- The opening of the line with `w` in front. -/
def Primary.indented (w : Text) (m : Primary) : Primary := ⟨m.prompt, w ++ m.indent, m.statement⟩

lemma primary?_append {w : Text} (hw : allBlank w = true) (table : Table) (l : Text) :
    table.primary? (w ++ l) = (table.primary? l).map (Primary.indented w) := by
  unfold primary?
  rw [trimStart_append hw, indent_append hw, Option.map_map]
  rfl

lemma isSome_primary?_append {w : Text} (hw : allBlank w = true) (table : Table) (l : Text) :
    (table.primary? (w ++ l)).isSome = (table.primary? l).isSome := by
  rw [primary?_append hw, Option.isSome_map]

end Prompt.Table

namespace Example
open Text Prompt

/-- The example with `w` in front of its lines. -/
def indented (w : Text) (e : Example) : Example := { e with indent := w ++ e.indent }

section
variable {w : Text} (hw : allBlank w = true) (table : Table)
include hw

lemma continuation?_append (p : Prompt) (indent l : Text) :
    continuation? table p (w ++ indent) (w ++ l) = continuation? table p indent l := by
  unfold continuation?
  rw [Table.isSome_primary?_append hw, stripPrefix?_append_left]

lemma output?_append (indent l : Text) :
    output? table (w ++ indent) (w ++ l) = output? table indent l := by
  unfold output?
  rw [Table.isSome_primary?_append hw, stripPrefix?_append_left, allBlank_append hw]

/-- The place in the text with `w` in front of its lines. -/
def Place.indented (w : Text) (q : Place) : Place :=
  ⟨q.line, q.opening.indented w, q.below.map (w ++ ·)⟩

lemma places_indented (line : Nat) (ls : List Text) :
    places table line (ls.map (w ++ ·)) = (places table line ls).map (Place.indented w) := by
  induction ls generalizing line with
  | nil => rfl
  | cons l ls ih =>
    rw [List.map_cons, places, places, Table.primary?_append hw]
    cases table.primary? l with
    | none => exact ih (line + 1)
    | some m =>
      simp only [Option.map_some, List.map_cons]
      rw [ih (line + 1)]
      rfl

omit hw in
lemma item_indented (w : Text) (m : Table.Primary) (line : Nat) (more out : List Text) :
    Example.item (m.indented w) line more out =
      (Example.item m line more out).map (indented w) := by
  unfold Example.item
  by_cases hb : allBlank m.statement = true
  · have hb' : allBlank (m.indented w).statement = true := hb
    rw [if_pos hb, if_pos hb']
    rfl
  · have hb' : ¬ allBlank (m.indented w).statement = true := hb
    have hstatement : (m.indented w).statement = m.statement := rfl
    rw [if_neg hb, if_neg hb', hstatement]
    cases Options.ofStatements (m.statement :: more) <;> rfl

lemma Place.more_indented (q : Place) : (q.indented w).more table = q.more table := by
  have h := takeMap_map (continuation?_append hw table q.opening.prompt q.opening.indent) q.below
  show (takeMap (continuation? table q.opening.prompt (w ++ q.opening.indent))
    (q.below.map (w ++ ·))).1 = _
  rw [h]
  rfl

lemma Place.expected_indented (q : Place) :
    (q.indented w).expected table = q.expected table := by
  have h := takeMap_map (continuation?_append hw table q.opening.prompt q.opening.indent) q.below
  have h' := takeMap_map (output?_append hw table q.opening.indent)
    (takeMap (continuation? table q.opening.prompt q.opening.indent) q.below).2
  show (takeMap (output? table (w ++ q.opening.indent)) (takeMap (continuation? table
    q.opening.prompt (w ++ q.opening.indent)) (q.below.map (w ++ ·))).2).1 = _
  rw [h]
  show (takeMap (output? table (w ++ q.opening.indent)) ((takeMap (continuation? table
    q.opening.prompt q.opening.indent) q.below).2.map (w ++ ·))).1 = _
  rw [h']
  rfl

lemma Place.item_indented (q : Place) :
    (q.indented w).item table = (q.item table).map (Example.indented w) := by
  rw [Place.item, Place.item, ← Example.item_indented, Place.more_indented hw,
    Place.expected_indented hw]
  rfl

/-- Indented lines make the same items, with the indentation in front of that of each
example. -/
theorem itemsFrom_indented (line : Nat) (ls : List Text) :
    Reader.itemsFrom table line (ls.map (w ++ ·)) =
      (Reader.itemsFrom table line ls).map (Except.map (Example.indented w)) := by
  rw [itemsFrom_eq_map, itemsFrom_eq_map, places_indented hw, List.map_map, List.map_map]
  exact List.map_congr_left fun q _ => Place.item_indented hw table q

end

/-- Spaces and tabs in front of every line of a text change nothing in its items but the
indentation of the examples, which they stand in front of. -/
theorem parse_indentLines {w : Text} (hw : isIndentation w = true) (table : Table) (first : Nat)
    (t : Text) :
    parse table first (indentLines w t) =
      (parse table first t).map (Except.map (Example.indented w)) := by
  have hchars := fun c (hc : c ∈ w) => eq_of_mem_isIndentation hw hc
  have hblank : allBlank w = true := by
    refine allBlank_iff.2 fun c hc => ?_
    rcases hchars c hc with rfl | rfl <;> decide
  have hn : '\n' ∉ w := fun h => absurd (hchars _ h) (by decide)
  have hr : w.getLast? ≠ some '\r' := fun h =>
    absurd (hchars _ (List.mem_of_getLast? h)) (by decide)
  show Reader.itemsFrom table first (lines (indentLines w t)) = _
  rw [lines_indentLines hn hr]
  exact itemsFrom_indented hblank table first (lines t)

/-- The statement is continued behind other blanks than those of the prompt, the output is
indented further, and the last line of the text has no break. -/
theorem parse_indentLines_tabs :
    ∃ w t : Text, w = "\t ".toList ∧ isIndentation w = true ∧
      t = " >>> f(\r\n   ... 1)\n   2\n\n$ \n$ ls # byexample: +x".toList ∧
      indentLines w t =
        "\t  >>> f(\r\n\t    ... 1)\n\t    2\n\t \n\t $ \n\t $ ls # byexample: +x".toList ∧
      parse .standard 3 (indentLines w t) =
        [.ok ⟨"python", ["f(".toList, "1)".toList], ["  2".toList], 3, "\t  ".toList, Options.none⟩,
          .error (.emptyStatement 7 "shell"), .error (.invalidOption 8 "+x".toList)] := by
  let t : Text := " >>> f(\r\n   ... 1)\n   2\n\n$ \n$ ls # byexample: +x".toList
  have hw : isIndentation "\t ".toList = true := by decide
  refine ⟨"\t ".toList, t, rfl, hw, rfl, by decide, ?_⟩
  rw [parse_indentLines hw]
  decide +kernel

end Example

end Exemplar
