import Exemplar.Comment.Block
import Exemplar.Proofs.Comment.Reading

/-!
# Comments in their text

A comment is written as its opener, its body and its closer; to a run of line comments, and to
a block comment that the end of the text cuts off, some of these are lacking. Whatever the
delimiters of a rule are, the comments of a text stand in it as they are written, one behind
the other, and each knows its place: the bytes and the line breaks before it.
-/
namespace Exemplar.Comment
open Text

namespace Span

/-- The delimiter before the body. The markers of line comments belong to the body. -/
def opening (c : Span) : Text :=
  match c.form with
  | .block form _ => form.opener
  | .run _ => []

/-- The delimiter behind the body, if the comment is closed. -/
def closing (c : Span) : Text :=
  match c.form with
  | .block form true => form.closer
  | _ => []

/-- The whole comment. -/
def written (c : Span) : Text := c.opening ++ c.body ++ c.closing

lemma bodyStart_eq (c : Span) : c.bodyStart = c.start + byteSize c.opening := by
  obtain ⟨_ | _, _, _, _⟩ := c <;> rfl

lemma stop_eq (c : Span) : c.stop = c.bodyStop + byteSize c.closing := by
  obtain ⟨⟨_, _ | _⟩ | _, _, _, _⟩ := c <;> rfl

/-- The comment stands between `u` and `v` in the text `t`. -/
structure Stands (rule : Rule) (t : Text) (c : Span) (u v : Text) : Prop where
  spells : t = u ++ c.written ++ v
  start : c.start = byteSize u
  line : c.line = newlines u + 1
  /-- A block has the delimiters of the rule, and no closer inside. -/
  block : ∀ form closed, c.form = .block form closed →
    form ∈ rule.blocks ∧ form.opener ≠ [] ∧ (c.body ≠ [] → ¬ form.closer <:+: c.body) ∧
      (closed = false → v = [])
  run : ∀ marker, c.form = .run marker → rule.lineMarker = some marker

variable {rule : Rule} {t u v : Text} {c : Span}

lemma Stands.bodyStart (h : c.Stands rule t u v) : c.bodyStart = byteSize (u ++ c.opening) := by
  rw [bodyStart_eq, h.start, byteSize_append]

lemma Stands.bodyStop (h : c.Stands rule t u v) :
    c.bodyStop = byteSize (u ++ c.opening ++ c.body) := by
  rw [Span.bodyStop, h.bodyStart, byteSize_append (u ++ c.opening)]

lemma Stands.stop (h : c.Stands rule t u v) : c.stop = byteSize (u ++ c.written) := by
  rw [stop_eq, h.bodyStop, written, ← List.append_assoc, ← List.append_assoc, ← byteSize_append]

end Span

/-- A comment that is read stands where it begins. -/
lemma Reads.stands {rule : Rule} {before after rest : Text} {d : Delimiter} {c : Span}
    (h : Reads before d after c rest) (hd : d ∈ rule.delimiters) :
    c.Stands rule (before ++ (d.opener ++ after)) before rest := by
  obtain ⟨hne, hlisted⟩ := Rule.mem_delimiters.1 hd
  cases h with
  | @closed form body _ _ h =>
    refine ⟨?_, rfl, rfl, ?_, ?_⟩
    · simp [Span.written, Span.opening, Span.closing, Delimiter.opener, h.spells]
    · rintro _ _ ⟨⟩
      exact ⟨hlisted, hne, h.not_isInfix, by simp⟩
    · rintro _ ⟨⟩
  | @unclosed form _ h =>
    refine ⟨?_, rfl, rfl, ?_, ?_⟩
    · simp [Span.written, Span.opening, Span.closing, Delimiter.opener]
    · rintro _ _ ⟨⟩
      exact ⟨hlisted, hne, fun _ => h, fun _ => rfl⟩
    · rintro _ ⟨⟩
  | @run marker _ body _ h =>
    refine ⟨?_, rfl, rfl, ?_, ?_⟩
    · simp [Span.written, Span.opening, Span.closing, Delimiter.opener, h.spells]
    · rintro _ _ ⟨⟩
    · rintro _ ⟨⟩
      exact hlisted

/-- The comments stand one behind the other in the text `t` that follows `before`, perhaps with
other text between them. -/
inductive Standing (rule : Rule) : Text → Text → List Span → Prop
  | nil {before t : Text} : Standing rule before t []
  | cons {before skipped after rest : Text} {d : Delimiter} {c : Span} {cs : List Span}
      (listed : d ∈ rule.delimiters)
      (reads : Reads (before ++ skipped) d after c rest)
      (more : Standing rule (before ++ skipped ++ c.written) rest cs) :
      Standing rule before (skipped ++ (d.opener ++ after)) (c :: cs)

/-- A step reads a comment behind text that it has skipped, and goes on behind the comment. -/
lemma exists_of_step {rule : Rule} {before t : Text} {s : Step}
    (h : step rule (Mark.start.pass before) t = some s) :
    ∃ d ∈ rule.delimiters, ∃ skipped after, t = skipped ++ (d.opener ++ after) ∧
      Reads (before ++ skipped) d after s.comment s.rest ∧
      s.mark = Mark.start.pass (before ++ skipped ++ s.comment.written) := by
  obtain ⟨o, ho, taken, hr⟩ := step_eq_some h
  obtain ⟨hd, hspell⟩ := Opening.next?_spells ho
  have hw := (hr.reads.stands hd).spells
  rw [hr.spells, ← List.append_assoc] at hw
  obtain rfl := List.append_cancel_left (List.append_cancel_right hw)
  exact ⟨_, hd, _, _, by rw [hspell, List.append_assoc], hr.reads, hr.mark⟩

/-- The comments that the scan reads stand in the text, whatever the rule is. -/
theorem standing_scanFrom (rule : Rule) (before t : Text) :
    Standing rule before t (scanFrom rule (Mark.start.pass before) t) := by
  induction hl : t.length using Nat.strong_induction_on generalizing before t with
  | _ n ih =>
    rw [scanFrom]
    cases hs : step rule (Mark.start.pass before) t with
    | none => exact .nil
    | some s =>
      obtain ⟨d, hd, skipped, after, rfl, hr, hm⟩ := exists_of_step hs
      by_cases hlt : s.rest.length < (skipped ++ (d.opener ++ after)).length
      · simp only [if_pos hlt, hm]
        exact .cons hd hr (ih _ (hl ▸ hlt) _ s.rest rfl)
      · simp only [if_neg hlt]
        exact .cons hd hr .nil

theorem standing_scan (rule : Rule) (t : Text) : Standing rule [] t (scan rule t) :=
  standing_scanFrom rule [] t

namespace Standing
variable {rule : Rule} {before t : Text} {cs : List Span}

/-- Each comment stands in the text. -/
theorem stands (h : Standing rule before t cs) :
    ∀ c ∈ cs, ∃ u v, before <+: u ∧ c.Stands rule (before ++ t) u v := by
  induction h with
  | nil => simp
  | @cons before skipped after rest d c cs listed reads _ ih =>
    have hc := reads.stands listed
    rw [List.append_assoc] at hc
    intro c' hc'
    rcases List.mem_cons.1 hc' with rfl | hc'
    · exact ⟨_, _, List.prefix_append _ _, hc⟩
    · obtain ⟨u, v, hu, hs⟩ := ih c' hc'
      refine ⟨u, v, ?_, ?_⟩
      · rw [List.append_assoc] at hu
        exact (List.prefix_append _ _).trans hu
      · rwa [← hc.spells] at hs

/-- A comment ends before the next one begins, and on no later line. -/
theorem pairwise (h : Standing rule before t cs) :
    cs.Pairwise fun c c' => c.stop ≤ c'.start ∧ c.line + newlines c.body ≤ c'.line := by
  induction h with
  | nil => exact .nil
  | @cons before skipped after rest d c cs listed reads more ih =>
    have hc := reads.stands listed
    refine List.pairwise_cons.2 ⟨fun c' hc' => ?_, ih⟩
    obtain ⟨u, v, ⟨x, rfl⟩, hs⟩ := more.stands c' hc'
    rw [hc.stop, hs.start, hc.line, hs.line]
    simp only [Span.written, byteSize_append, newlines_append]
    omega

end Standing

end Exemplar.Comment
