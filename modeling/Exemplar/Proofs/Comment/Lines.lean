import Exemplar.Proofs.Comment.Standing
import Mathlib.Data.List.Forall2

/-!
# The lines of a block

The body of a block is a part of the text and begins on the line of the block; taking the
decoration off keeps its lines. A line of the block is the line of the body or a space and an
end of that line. Bodies do not overlap: where one ends the next has not begun.
-/
namespace Exemplar.Comment
open Text

/-- A line as it stands, or what is left of it behind its decoration, after a space. -/
def Bared (l l' : Text) : Prop := l' = l ∨ ∃ u, l' = ' ' :: u ∧ u <:+ l

/-- What stands on a bared line stands on the line, unless the space belongs to it. -/
lemma Bared.isInfix {l l' w : Text} (h : Bared l l') (hw : w <:+: l')
    (hb : w.head? ≠ some ' ') : w <:+: l := by
  rcases h with rfl | ⟨u, rfl, hu⟩
  · exact hw
  · rcases List.infix_cons_iff.1 hw with hp | hi
    · cases w with
      | nil => exact List.nil_infix
      | cons c w =>
        obtain ⟨rfl, -⟩ := List.cons_prefix_cons.1 hp
        exact absurd rfl hb
    · exact hi.trans hu.isInfix

lemma bared_undecorateLine (l : Text) : Bared l (undecorateLine l) := by
  cases l with
  | nil => exact .inl rfl
  | cons c l =>
    rw [undecorateLine]
    split
    · exact .inr ⟨_, rfl, (List.dropWhile_suffix _).trans (List.suffix_cons c l)⟩
    · exact .inl rfl

lemma bared_unmarkLine (marker l : Text) : Bared l (unmarkLine marker l) := by
  have htrim : trimStart l <:+ l := List.dropWhile_suffix _
  refine .inr ⟨_, rfl, ?_⟩
  cases hs : stripPrefix? marker (trimStart l) with
  | none => exact htrim
  | some u =>
    rw [stripPrefix?_eq_some] at hs
    exact List.IsSuffix.trans ⟨marker, hs.symm⟩ htrim

/-- A character other than a space is on a bared line only if it is on the line. -/
lemma Bared.not_mem {l l' : Text} (h : Bared l l') {c : Char} (hc : c ≠ ' ') (hl : c ∉ l) :
    c ∉ l' := by
  rcases h with rfl | ⟨u, rfl, hu⟩
  · exact hl
  · intro hm
    rcases List.mem_cons.1 hm with hm | hm
    · exact hc hm
    · exact hl (hu.subset hm)

/-- What becomes of a line of a comment. -/
def Span.bare (rule : Rule) (c : Span) : Text → Text :=
  match c.form with
  | .block _ _ => if rule.decorated then undecorateLine else id
  | .run marker => unmarkLine marker

lemma bared_bare (rule : Rule) (c : Span) (l : Text) : Bared l (c.bare rule l) := by
  unfold Span.bare
  cases c.form with
  | block form closed =>
    by_cases hd : rule.decorated = true
    · simp only [hd, if_true]
      exact bared_undecorateLine l
    · simp only [hd]
      exact .inl rfl
  | run marker => exact bared_unmarkLine marker l

lemma text_eq_joinLines (rule : Rule) (c : Span) :
    c.text rule = joinLines ((pieces c.body).map (c.bare rule)) := by
  unfold Span.text Span.bare
  cases c.form with
  | block form closed =>
    by_cases hd : rule.decorated = true
    · simp only [hd, if_true]
      rfl
    · simp [hd]
  | run marker => rfl

/-- Baring every line keeps the lines. -/
lemma pieces_text (rule : Rule) (c : Span) :
    pieces (c.text rule) = (pieces c.body).map (c.bare rule) := by
  rw [text_eq_joinLines]
  refine pieces_joinLines (by simp [pieces, splitBy_ne_nil]) fun l' hl' => ?_
  obtain ⟨l, hl, rfl⟩ := List.mem_map.1 hl'
  exact (bared_bare rule c l).not_mem (by decide) (newline_not_mem_pieces hl)

lemma bared_text (rule : Rule) (c : Span) :
    List.Forall₂ Bared (pieces c.body) (pieces (c.text rule)) := by
  rw [pieces_text, List.forall₂_map_right_iff, List.forall₂_same]
  exact fun l _ => bared_bare rule c l

/-- The body stands behind the text `a` in `t`, and so it begins on the line `line`. -/
def StandsBehind (t a body : Text) (line : Nat) : Prop :=
  a ++ body <+: t ∧ line = newlines a + 1

lemma Rule.OneLine.newlines_opening {rule : Rule} (hrule : rule.OneLine) {t u v : Text}
    {c : Span} (h : c.Stands rule t u v) : newlines c.opening = 0 := by
  cases hc : c.form with
  | block form closed =>
    rw [Span.opening, hc]
    exact List.count_eq_zero.2 (hrule.1 form (h.block form closed hc).1).1
  | run marker => simp [Span.opening, hc]

/-- The body of a comment stands behind its opener, on the same line. -/
lemma Standing.standsBehind {rule : Rule} (hrule : rule.OneLine) {before t : Text}
    {cs : List Span} (h : Standing rule before t cs) :
    ∀ c ∈ cs, ∃ a, StandsBehind (before ++ t) a c.body c.line := by
  intro c hc
  obtain ⟨u, v, -, hs⟩ := h.stands c hc
  refine ⟨u ++ c.opening, ⟨c.closing ++ v, ?_⟩, ?_⟩
  · rw [hs.spells]
    simp only [Span.written, List.append_assoc]
  · rw [hs.line, newlines_append, hrule.newlines_opening hs, Nat.add_zero]

/-- A block is a part of the text with the decoration taken off its lines. -/
structure Block.StandsIn (t : Text) (b : Block) : Prop where
  stands : ∃ a, StandsBehind t a b.raw b.line
  bared : List.Forall₂ Bared (pieces b.raw) (pieces b.text)

lemma selected_sublist (rule : Rule) (region : Region) (cs : List Span) :
    (selected rule region cs).Sublist cs := by
  induction cs generalizing region with
  | nil => exact .slnil
  | cons c cs ih =>
    rw [selected]
    split
    · exact (ih _).cons_cons c
    · exact (ih _).cons c

lemma isCandidate_of_mem_selected {rule : Rule} {region : Region} {cs : List Span} {c : Span}
    (h : c ∈ selected rule region cs) : c.isCandidate rule = true := by
  induction cs generalizing region with
  | nil => simp [selected] at h
  | cons d cs ih =>
    rw [selected] at h
    split at h
    · rename_i hd
      rcases List.mem_cons.1 h with rfl | h
      · exact hd.1
      · exact ih h
    · exact ih h

/-- The blocks of a text stand in it, one behind the other. -/
theorem extract_standsIn {rule : Rule} (hrule : rule.OneLine) (t : Text) :
    (∀ b ∈ (extract rule t).blocks, b.StandsIn t) ∧
      (extract rule t).blocks.Pairwise fun b b' => b.line + newlines b.raw ≤ b'.line := by
  by_cases hw : rule.wholeFile = true
  · rw [extract, if_pos hw, extractAll]
    split
    · simp
    · refine ⟨?_, List.pairwise_singleton _ _⟩
      intro b hb
      obtain rfl := List.mem_singleton.1 hb
      exact ⟨⟨[], List.prefix_rfl, rfl⟩, List.forall₂_same.2 fun l _ => .inl rfl⟩
  · rw [extract_scanned (by simpa using hw)]
    have hstanding := standing_scan rule t
    refine ⟨?_, ?_⟩
    · intro b hb
      obtain ⟨c, hc, rfl⟩ := List.mem_map.1 hb
      have hscan := (selected_sublist _ _ _).subset hc
      exact ⟨hstanding.standsBehind hrule c hscan, bared_text rule c⟩
    · exact List.pairwise_map.2
        ((hstanding.pairwise.sublist (selected_sublist _ _ _)).imp And.right)

end Exemplar.Comment
