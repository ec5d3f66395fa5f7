import Exemplar.Harvest
import Exemplar.Proofs.Comment.Lines
import Exemplar.Proofs.Example.Position

/-!
# Positions of harvested examples

An example of a file stands on the lines that it names: the prompt line holds the primary
marker with the first statement, and each further statement stands with the continuation
marker as many lines below as its number says. Examples follow each other in the file.
-/
namespace Exemplar.Harvest
open Text Comment Example Prompt

/-- The line `l` shows the statement `s` of an example, the one with the index `j`: the
primary marker stands before the first one and the continuation marker before the others. A
continuation marker alone may lack the blanks that end it. -/
def Shows (p : Prompt) (l s : Text) : Nat → Prop
  | 0 => p.primary ++ s <:+: l
  | _ + 1 => p.continuation ++ s <:+: l ∨ s = [] ∧ trimEnd p.continuation <:+: l

/-- A text that stands on a line of a block, and begins with no blank, stands on the line of
the file with the same number. -/
lemma exists_line {t : Text} {b : Block} (hb : b.StandsIn t) {i : Nat} {l w : Text}
    (hl : (lines b.text)[i]? = some l) (hw : w <:+: l) (hn : NoBlankFirst w) :
    ∃ l', line? t (b.line + i) = some l' ∧ w <:+: l' := by
  obtain ⟨a, ⟨c, hc⟩, hline⟩ := hb.stands
  obtain ⟨l₁, h₁, hpre⟩ := getElem?_linesOfPieces hl
  obtain ⟨l₀, h₀, hbared⟩ := exists_getElem?_of_forall₂ hb.bared h₁
  obtain ⟨l', h', hin⟩ := getElem?_pieces_infix (a := a) c h₀
  have hspace : w.head? ≠ some ' ' := by
    intro he
    have := hn ' ' he
    exact absurd this (by decide)
  refine ⟨l', ?_, (hbared.isInfix (hw.trans hpre.isInfix) hspace).trans hin⟩
  rw [hline, Nat.add_right_comm, line?, ← hc]
  exact h'

section
variable {table : Table} {m : Table.Primary} {l s : Text}

/-- On a line that begins an example the marker stands before the statement. -/
lemma marker_of_primary? (h : table.primary? l = some m) :
    m.prompt.primary ++ m.statement <:+: l ∧ NoBlankFirst (m.prompt.primary ++ m.statement) := by
  rw [← (Table.opens_of_primary? h).trimStart_eq]
  exact ⟨(List.dropWhile_suffix _).isInfix, noBlankFirst_trimStart l⟩

/-- On a line that continues an example the marker stands before the statement. -/
lemma marker_of_continues {p : Prompt} {indent : Text} (h : Continues table p indent l s) :
    ∃ w, (w = p.continuation ++ s ∨ s = [] ∧ w = trimEnd p.continuation) ∧ w <:+: l ∧
      NoBlankFirst w := by
  obtain ⟨-, u, rfl, hu⟩ := h
  have htrim : trimStart u <:+: indent ++ u :=
    ((List.dropWhile_suffix _).trans (List.suffix_append _ _)).isInfix
  have hfirst := noBlankFirst_trimStart u
  rcases hu with hu | ⟨-, hu, hs⟩
  · exact ⟨trimStart u, .inl hu, htrim, hfirst⟩
  · have hpre := trimEnd_isPrefix (trimStart u)
    refine ⟨trimEnd (trimStart u), .inr ⟨hs, hu⟩, hpre.isInfix.trans htrim, ?_⟩
    obtain ⟨v, hv⟩ := hpre
    exact (hv.symm ▸ hfirst).of_append

end

/-- The statements of an example stand on the lines of the file that it names. -/
lemma exists_shows {t : Text} {b : Block} (hb : b.StandsIn t) {table : Table}
    {m : Table.Primary} {i : Nat} {e : Example} (he : e.StandsAt table m (lines b.text) i)
    {j : Nat} {s : Text} (hs : e.statements[j]? = some s) :
    ∃ l, line? t (b.line + i + j) = some l ∧ Shows m.prompt l s j := by
  cases j with
  | zero =>
    obtain ⟨l, hl, hm⟩ := he.opens
    obtain ⟨hin, hfirst⟩ := marker_of_primary? hm
    obtain rfl : m.statement = s := by
      have := he.first
      rw [List.head?_eq_getElem?, hs] at this
      exact (Option.some.inj this).symm
    exact exists_line hb hl hin hfirst
  | succ j =>
    obtain ⟨l, hl, hcont⟩ := he.continues j s hs
    obtain ⟨w, hw, hin, hfirst⟩ := marker_of_continues hcont
    obtain ⟨l', hl', hin'⟩ := exists_line hb hl hin hfirst
    refine ⟨l', by rw [Nat.add_assoc]; exact hl', ?_⟩
    rcases hw with rfl | ⟨rfl, rfl⟩
    · exact .inl hin'
    · exact .inr ⟨rfl, hin'⟩

/-- An example of a block stands on lines of the block. -/
lemma endLine_le {t : Text} {b : Block} (hb : b.StandsIn t) {table : Table} {e : Example}
    (he : .ok e ∈ itemsOf table b) :
    b.line ≤ e.line ∧ e.endLine ≤ b.line + newlines b.raw := by
  obtain ⟨m, i, hline, hstands⟩ := exists_standsAt he
  have hlen : (lines b.text).length ≤ newlines b.raw + 1 :=
    calc (lines b.text).length ≤ (pieces b.text).length := length_linesOfPieces_le _
      _ = newlines b.raw + 1 := by rw [← hb.bared.length_eq, length_pieces]
  have hends := hstands.ends
  rw [endLine, hline]
  omega

lemma example?_eq_some {x : Item} {e : Example} : example? x = some e ↔ x = .ok e := by
  cases x <;> simp [example?]

/-- The lines of a text reach as far as any block. -/
lemma line_le_of_standsIn {t : Text} {b : Block} (hb : b.StandsIn t) :
    b.line + newlines b.raw ≤ (pieces t).length := by
  obtain ⟨a, ⟨c, rfl⟩, hline⟩ := hb.stands
  rw [length_pieces, newlines_append, newlines_append, hline]
  omega

/-- Under a rule whose delimiters have no line breaks, as all known ones are, the statements
of an example stand on the lines of the file that it names, behind the markers of its
language. The example ends on a line of the file, and no later than the next one begins. -/
theorem ofText_positions :
    (∀ entry ∈ Rule.table, entry.2.OneLine) ∧
    ∀ (rule : Rule) (table : Table) (t : Text), rule.OneLine →
      (∀ e ∈ (ofText rule table t).examples, ∃ p, table.find? e.language = some p ∧
        e.statements ≠ [] ∧
        (∀ j s, e.statements[j]? = some s →
          ∃ l, line? t (e.line + j) = some l ∧ Shows p l s j) ∧
        e.endLine ≤ (pieces t).length) ∧
      (ofText rule table t).examples.Pairwise fun a b => a.endLine ≤ b.line := by
  refine ⟨Rule.oneLine_of_mem_table, fun rule table t hrule => ?_⟩
  obtain ⟨hstand, hpair⟩ := extract_standsIn hrule t
  constructor
  · intro e he
    obtain ⟨x, hx, hxe⟩ := List.mem_filterMap.1 he
    obtain ⟨b, hb, hx⟩ := List.mem_flatMap.1 hx
    rw [example?_eq_some] at hxe
    subst hxe
    obtain ⟨m, i, hline, hs⟩ := exists_standsAt hx
    obtain ⟨l, -, hm⟩ := hs.opens
    have hknown := (Table.opens_of_primary? hm).known
    refine ⟨m.prompt, by rw [hs.language_eq]; exact Table.find?_language hknown, ?_, ?_, ?_⟩
    · intro hnil
      have := hs.first
      rw [hnil] at this
      cases this
    · intro j s hj
      rw [hline]
      exact exists_shows (hstand b hb) hs hj
    · exact (endLine_le (hstand b hb) hx).2.trans (line_le_of_standsIn (hstand b hb))
  · rw [ofText, List.pairwise_filterMap, List.pairwise_flatMap]
    refine ⟨fun b _ => (parse_pairwise table b.line b.text).imp ?_, ?_⟩
    · intro x x' hlt a ha a' ha'
      exact Nat.le_of_lt (hlt a a' (example?_eq_some.1 ha) (example?_eq_some.1 ha'))
    · refine (List.Pairwise.and_mem.1 hpair).imp ?_
      rintro b b' ⟨hb, hb', hle⟩ x hx x' hx' a ha a' ha'
      rw [example?_eq_some] at ha ha'
      subst ha ha'
      exact (endLine_le (hstand b hb) hx).2.trans
        (hle.trans (endLine_le (hstand b' hb') hx').1)

/-- The bare marker below an asterisk stands for an empty statement, and the second comment
begins on the line on which the first example ends. -/
theorem ofText_positions_touching :
    ∃ rule t, rule.OneLine ∧ t = "/*\n * >>> f(\n *...\n * 1*//* $ ls */".toList ∧
      ∃ a b, (ofText rule .standard t).examples = [a, b] ∧
        a.statements = ["f(".toList, []] ∧ a.endLine = 4 ∧ b.line = 4 ∧
        (∃ p, Table.standard.find? a.language = some p ∧
          (∃ l, line? t (a.line + 0) = some l ∧ p.primary ++ "f(".toList <:+: l) ∧
          (∃ l, line? t (a.line + 1) = some l ∧ Shows p l [] 1) ∧ a.endLine ≤ 4) ∧
        a.endLine ≤ b.line := by
  let rule : Rule := ⟨"", [Rule.block "/*" "*/"], none, false, true, false⟩
  have hrule : rule.OneLine := by decide
  have he : (ofText rule .standard "/*\n * >>> f(\n *...\n * 1*//* $ ls */".toList).examples =
      [⟨"python", ["f(".toList, []], ["1".toList], 2, " ".toList, Options.none⟩,
        ⟨"shell", ["ls ".toList], [], 4, " ".toList, Options.none⟩] := by decide +kernel
  obtain ⟨hshows, hpair⟩ := ofText_positions.2 rule .standard _ hrule
  rw [he] at hshows hpair
  obtain ⟨p, hp, -, hlines, hend⟩ := hshows _ (List.mem_cons_self ..)
  refine ⟨rule, _, hrule, rfl, _, _, he, rfl, rfl, rfl, ⟨p, hp, hlines 0 _ rfl, hlines 1 _ rfl, ?_⟩, ?_⟩
  · exact hend
  · exact List.rel_of_pairwise_cons hpair (List.mem_singleton.2 rfl)

end Exemplar.Harvest
