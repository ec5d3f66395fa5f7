import Exemplar.Proofs.Comment.Lines

/-!
# Places of blocks

Offsets count the bytes of a text. Those of a block are in order, lie between characters and
cut out of the text what the block says: its body, and the delimiters of a block comment on
both sides of it. A block comment has no closer in its body; it is closed behind it, or runs to
the end of the text and is reported. No block begins before the one in front of it has ended.
-/
namespace Exemplar.Text

/-- The text `t` is `s` from the offset `i` up to the offset `j`. Both offsets lie between
characters. -/
def Slice (t : Text) (i j : Nat) (s : Text) : Prop :=
  ∃ u v, t = u ++ s ++ v ∧ i = byteSize u ∧ j = byteSize (u ++ s)

lemma Slice.le {t s : Text} {i j : Nat} (h : Slice t i j s) : i ≤ j ∧ j ≤ byteSize t := by
  obtain ⟨u, v, rfl, rfl, rfl⟩ := h
  simp only [byteSize_append]
  omega

end Exemplar.Text

namespace Exemplar.Comment
open Text

/-- How a block of any kind stands in the text `t`. -/
structure Block.Placed (t : Text) (b : Block) : Prop where
  ordered : b.start ≤ b.bodyStart ∧ b.bodyStart ≤ b.bodyStop ∧ b.bodyStop ≤ b.stop ∧
    b.stop ≤ byteSize t
  opening : ∃ s, Slice t b.start b.bodyStart s
  raw : Slice t b.bodyStart b.bodyStop b.raw
  closing : ∃ s, Slice t b.bodyStop b.stop s
  line : ∃ u, u <+: t ∧ byteSize u = b.start ∧ b.line = newlines u + 1
  newlines_text : newlines b.text = newlines b.raw
  bared : List.Forall₂ Bared (pieces b.raw) (pieces b.text)

/-- How a block that is a block comment is delimited in the text `t`. -/
structure Block.Delimited (rule : Rule) (t : Text) (problems : List Problem) (form : BlockForm)
    (b : Block) : Prop where
  listed : form ∈ rule.blocks
  opener : form.opener ≠ [] ∧ Slice t b.start b.bodyStart form.opener
  inside : ¬ form.closer <:+: b.raw
  /-- It is closed, or it ends with the text and is reported on its line. -/
  closer : Slice t b.bodyStop b.stop form.closer ∨
    b.bodyStop = byteSize t ∧ b.stop = byteSize t ∧
      .unterminated b.line form.opener ∈ problems

section
variable {rule : Rule} {t u v : Text} {c : Span}

lemma Span.Stands.slice_opening (h : c.Stands rule t u v) :
    Slice t c.start c.bodyStart c.opening := by
  refine ⟨u, c.body ++ c.closing ++ v, ?_, h.start, h.bodyStart⟩
  rw [h.spells]
  simp only [Span.written, List.append_assoc]

lemma Span.Stands.slice_body (h : c.Stands rule t u v) :
    Slice t c.bodyStart c.bodyStop c.body := by
  refine ⟨u ++ c.opening, c.closing ++ v, ?_, h.bodyStart, h.bodyStop⟩
  rw [h.spells]
  simp only [Span.written, List.append_assoc]

lemma Span.Stands.slice_closing (h : c.Stands rule t u v) :
    Slice t c.bodyStop c.stop c.closing := by
  refine ⟨u ++ c.opening ++ c.body, v, ?_, h.bodyStop, ?_⟩
  · rw [h.spells]
    simp only [Span.written, List.append_assoc]
  · rw [h.stop]
    simp only [Span.written, List.append_assoc]

/-- The block of a comment stands where the comment does. -/
lemma Span.Stands.placed (h : c.Stands rule t u v) : (c.toBlock rule).Placed t where
  ordered :=
    ⟨h.slice_opening.le.1, h.slice_body.le.1, h.slice_closing.le.1, h.slice_closing.le.2⟩
  opening := ⟨_, h.slice_opening⟩
  raw := h.slice_body
  closing := ⟨_, h.slice_closing⟩
  line := by
    refine ⟨u, ⟨c.written ++ v, ?_⟩, h.start.symm, h.line⟩
    rw [h.spells, List.append_assoc]
  newlines_text := by
    have hlength := (bared_text rule c).length_eq
    rw [length_pieces, length_pieces] at hlength
    exact (Nat.add_right_cancel hlength).symm
  bared := bared_text rule c

/-- The block of a block comment that is not empty is delimited like the comment. -/
lemma Span.Stands.delimited (h : c.Stands rule t u v) {form : BlockForm} {closed : Bool}
    (hc : c.form = .block form closed) (hbody : c.body ≠ []) {problems : List Problem}
    (hp : ∀ p, c.unterminated? = some p → p ∈ problems) :
    (c.toBlock rule).Delimited rule t problems form := by
  obtain ⟨hlisted, hopener, hinside, hend⟩ := h.block form closed hc
  have hopening : c.opening = form.opener := by rw [Span.opening, hc]
  refine ⟨hlisted, ⟨hopener, hopening ▸ h.slice_opening⟩, hinside hbody, ?_⟩
  cases closed with
  | true =>
    have hclosing : c.closing = form.closer := by rw [Span.closing, hc]
    exact .inl (hclosing ▸ h.slice_closing)
  | false =>
    have hclosing : c.closing = [] := by rw [Span.closing, hc]
    have hstop : c.stop = byteSize t := by
      rw [h.stop, h.spells, hend rfl, List.append_nil]
    have hbodyStop : c.bodyStop = c.stop := by
      rw [Span.stop_eq, hclosing, byteSize_nil, Nat.add_zero]
    have hreported : c.unterminated? = some (.unterminated c.line form.opener) := by
      rw [Span.unterminated?, hc]
    exact .inr ⟨hbodyStop.trans hstop, hstop, hp _ hreported⟩

end

/-- The blocks of a text are placed in it, each behind the one before. Each is a comment of the
text: a block comment, which its delimiters surround, or a run of line comments, which is all
body. -/
theorem extract_placed {rule : Rule} (hpart : rule.wholeFile = false) (t : Text) :
    (∀ b ∈ (extract rule t).blocks, b.Placed t ∧ ∃ c ∈ scan rule t, b = c.toBlock rule ∧
      (∀ form closed, c.form = .block form closed →
        b.Delimited rule t (extract rule t).problems form) ∧
      ∀ marker, c.form = .run marker →
        rule.lineMarker = some marker ∧ b.bodyStart = b.start ∧ b.stop = b.bodyStop) ∧
    (extract rule t).blocks.Pairwise fun b b' => b.stop ≤ b'.start := by
  have hstanding := standing_scan rule t
  rw [extract_scanned hpart]
  refine ⟨?_, ?_⟩
  · intro b hb
    obtain ⟨c, hc, rfl⟩ := List.mem_map.1 hb
    have hscan := (selected_sublist _ _ _).subset hc
    obtain ⟨u, v, -, hs⟩ := hstanding.stands c hscan
    refine ⟨hs.placed, c, hscan, rfl, ?_, ?_⟩
    · intro form closed hform
      have hcand := isCandidate_of_mem_selected hc
      have hbody : c.body ≠ [] := by
        intro hnil
        simp [Span.isCandidate, hform, hnil, allBlank] at hcand
      refine hs.delimited hform hbody fun p hp => List.mem_append_left _ ?_
      exact List.mem_filterMap.2 ⟨c, hscan, hp⟩
    · intro marker hform
      refine ⟨hs.run marker hform, ?_, ?_⟩
      · simp [Span.toBlock, Span.bodyStart, hform]
      · simp [Span.toBlock, Span.stop, hform]
  · exact List.pairwise_map.2
      ((hstanding.pairwise.sublist (selected_sublist _ _ _)).imp And.left)

/-- A run of line comments behind a character of two bytes, a closed block and an open one. -/
theorem extract_placed_two_bytes :
    ∃ rule t, rule = Rule.slash.withSearchable true ∧ rule.wholeFile = false ∧
      t = "é // $ a\n  /* ü\n * b */\n/* c".toList ∧
      (extract rule t).blocks.map (fun b => (b.start, b.bodyStart, b.bodyStop, b.stop, b.line)) =
        [(3, 3, 9, 9, 1), (12, 14, 23, 25, 2), (26, 28, 30, 30, 4)] ∧
      .unterminated 4 "/*".toList ∈ (extract rule t).problems ∧
      (∀ b ∈ (extract rule t).blocks, b.Placed t) ∧
      (extract rule t).blocks.Pairwise fun b b' => b.stop ≤ b'.start := by
  let rule := Rule.slash.withSearchable true
  let t := "é // $ a\n  /* ü\n * b */\n/* c".toList
  have hpart : rule.wholeFile = false := rfl
  obtain ⟨hplaced, hpair⟩ := extract_placed hpart t
  refine ⟨rule, t, rfl, hpart, rfl, ?_, ?_, fun b hb => (hplaced b hb).1, hpair⟩ <;>
    decide +kernel

end Exemplar.Comment
