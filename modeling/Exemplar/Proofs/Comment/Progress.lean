import Exemplar.Proofs.Comment.Standing

/-!
# The scan moves on

The scan is a loop: a step reads the next comment, and the loop goes on behind it until no step is
left. Here the steps are followed as they come, whether they move on or not. They do unless a break
begins the marker of line comments: a block takes its opener at least, and a line comment what its
line has of the marker. So the loop stands further on after each step and never beyond the end of
the text, and there are at most as many comments as the text has bytes. A marker that begins with a
break holds the loop where it is.
-/
namespace Exemplar.Comment
open Text

lemma Mark.offset_pass_start (t : Text) : (Mark.start.pass t).offset = byteSize t := by
  rw [pass_start]

/-- No break begins the marker of line comments. -/
def Rule.MarksLines (rule : Rule) : Prop :=
  ∀ marker ∈ rule.lineMarker, marker.head? ≠ some '\n'

instance (rule : Rule) : Decidable rule.MarksLines := by unfold Rule.MarksLines; infer_instance

/-- The steps that lead from the mark `m` and the text `t` behind it to the mark `m'` and the text
`t'`. -/
inductive Steps (rule : Rule) : Mark → Text → List Step → Mark → Text → Prop
  | nil {m : Mark} {t : Text} : Steps rule m t [] m t
  | cons {m m' : Mark} {t t' : Text} {s : Step} {steps : List Step}
      (first : step rule m t = some s) (more : Steps rule s.mark s.rest steps m' t') :
      Steps rule m t (s :: steps) m' t'

/-- Steps that begin where others do are a beginning of these, if these come to an end. -/
lemma Steps.isPrefix {rule : Rule} {m m₁ m₂ : Mark} {t t₁ t₂ : Text} {steps steps' : List Step}
    (h : Steps rule m t steps m₁ t₁) (h' : Steps rule m t steps' m₂ t₂)
    (hend : step rule m₂ t₂ = none) : steps <+: steps' := by
  induction h generalizing steps' with
  | nil => exact List.nil_prefix
  | cons first _ ih =>
    cases h' with
    | nil =>
      rw [hend] at first
      cases first
    | cons first' more' =>
      obtain rfl := Option.some.inj (first.symm.trans first')
      exact List.cons_prefix_cons.2 ⟨rfl, ih more'⟩

/-- A step has passed the text `taken`, which is not empty and ends with the comment. -/
structure Passes (before t taken : Text) (s : Step) : Prop where
  spells : t = taken ++ s.rest
  moves : 0 < taken.length
  mark : s.mark = Mark.start.pass (before ++ taken)
  stop : s.comment.stop = byteSize (before ++ taken)

/-- Where a comment begins stand the comment and the text that is left. -/
lemma Reads.spells {rule : Rule} {before after rest : Text} {d : Delimiter} {c : Span}
    (h : Reads before d after c rest) (hd : d ∈ rule.delimiters) :
    d.opener ++ after = c.written ++ rest := by
  have hspell := (h.stands hd).spells
  rw [List.append_assoc] at hspell
  exact List.append_cancel_left hspell

section
variable {rule : Rule} (hrule : rule.MarksLines)
include hrule

/-- A comment that is read is not empty. -/
lemma Reads.written_ne_nil {before after rest : Text} {d : Delimiter} {c : Span}
    (h : Reads before d after c rest) (hd : d ∈ rule.delimiters) : c.written ≠ [] := by
  intro hnil
  obtain ⟨hne, hlisted⟩ := Rule.mem_delimiters.1 hd
  have hlt : rest.length < (d.opener ++ after).length := by
    refine h.length_lt hne fun marker hm => ?_
    subst hm
    exact hrule marker hlisted
  rw [h.spells hd, hnil, List.nil_append] at hlt
  exact Nat.lt_irrefl _ hlt

lemma exists_passes {before t : Text} {s : Step}
    (h : step rule (Mark.start.pass before) t = some s) : ∃ taken, Passes before t taken s := by
  obtain ⟨d, hd, skipped, after, rfl, hr, hmark⟩ := exists_of_step h
  refine ⟨skipped ++ s.comment.written, ?_, ?_, ?_, ?_⟩
  · rw [hr.spells hd, List.append_assoc]
  · have hpos := List.length_pos_iff.2 (hr.written_ne_nil hrule hd)
    rw [List.length_append]
    omega
  · rw [hmark, List.append_assoc]
  · rw [(hr.stands hd).stop, List.append_assoc]

/-- The text that a course of steps has passed has a character for each of them at least. -/
lemma Steps.exists_passed {before t t' : Text} {m' : Mark} {steps : List Step}
    (h : Steps rule (Mark.start.pass before) t steps m' t') :
    ∃ taken, t = taken ++ t' ∧ m' = Mark.start.pass (before ++ taken) ∧
      steps.length ≤ taken.length := by
  generalize hm : Mark.start.pass before = m at h
  induction h generalizing before with
  | nil => exact ⟨[], rfl, by rw [List.append_nil, hm], Nat.le_refl _⟩
  | cons first _ ih =>
    subst hm
    obtain ⟨taken, hs⟩ := exists_passes hrule first
    obtain ⟨more, hspell, hmark, hle⟩ := ih hs.mark.symm
    have hpos := hs.moves
    refine ⟨taken ++ more, ?_, ?_, ?_⟩
    · rw [hs.spells, hspell, List.append_assoc]
    · rw [hmark, List.append_assoc]
    · rw [List.length_cons, List.length_append]
      omega

/-- The steps come to an end, and then they have read what the scan finds. -/
lemma exists_steps (before t : Text) :
    ∃ steps m' t', Steps rule (Mark.start.pass before) t steps m' t' ∧ step rule m' t' = none ∧
      scanFrom rule (Mark.start.pass before) t = steps.map Step.comment := by
  induction hl : t.length using Nat.strong_induction_on generalizing before t with
  | _ n ih =>
    rw [scanFrom]
    cases hs : step rule (Mark.start.pass before) t with
    | none => exact ⟨[], _, t, .nil, hs, rfl⟩
    | some s =>
      obtain ⟨taken, hp⟩ := exists_passes hrule hs
      have hlt : s.rest.length < t.length := by
        have hpos := hp.moves
        rw [hp.spells, List.length_append]
        omega
      obtain ⟨steps, m', t', hsteps, hend, hscan⟩ :=
        ih _ (hl ▸ hlt) (before ++ taken) s.rest rfl
      rw [← hp.mark] at hsteps hscan
      exact ⟨s :: steps, m', t', .cons hs hsteps, hend, by simp [hlt, hscan]⟩

end

/-- Wherever the loop has come to, a step puts it behind the comment that is read, which is further
on and not beyond the end of the text. So the loop has one course, and it ends after at most as many
comments as the text has bytes. These are the comments that the scan finds and that the blocks are
taken from. -/
theorem steps_end {rule : Rule} (hrule : rule.MarksLines) (t : Text) :
    (∀ steps m r s, Steps rule Mark.start t steps m r → step rule m r = some s →
      m.offset < s.mark.offset ∧ s.mark.offset = s.comment.stop ∧
        s.mark.offset ≤ byteSize t) ∧
    ∃ steps m r, Steps rule Mark.start t steps m r ∧ step rule m r = none ∧
      (∀ steps' m' r', Steps rule Mark.start t steps' m' r' → steps' <+: steps) ∧
      steps.length ≤ byteSize t ∧
      scan rule t = steps.map Step.comment ∧
      (rule.wholeFile = false → (extract rule t).blocks =
        (selected rule none (steps.map Step.comment)).map (Span.toBlock rule)) := by
  constructor
  · intro steps m r s hsteps hs
    have hsteps : Steps rule (Mark.start.pass []) t steps m r := hsteps
    obtain ⟨taken, rfl, rfl, -⟩ := hsteps.exists_passed hrule
    obtain ⟨more, hp⟩ := exists_passes hrule hs
    have hpos := hp.moves
    have hbytes := length_le_byteSize more
    have hoffset : s.mark.offset = byteSize ([] ++ taken ++ more) := by
      rw [hp.mark, Mark.offset_pass_start]
    refine ⟨?_, hoffset.trans hp.stop.symm, ?_⟩
    · rw [hoffset, Mark.offset_pass_start, byteSize_append _ more]
      omega
    · rw [hoffset, hp.spells]
      simp only [List.nil_append, byteSize_append]
      omega
  · obtain ⟨steps, m, r, hsteps, hend, hscan⟩ := exists_steps hrule [] t
    have hscan : scan rule t = steps.map Step.comment := hscan
    refine ⟨steps, m, r, hsteps, hend, fun _ _ _ h => h.isPrefix hsteps hend, ?_, hscan, ?_⟩
    · obtain ⟨taken, rfl, -, hle⟩ := hsteps.exists_passed hrule
      have hbytes := length_le_byteSize taken
      rw [byteSize_append]
      omega
    · intro hpart
      rw [extract_scanned hpart, hscan]

/-- One opener is empty, one closer is, and other delimiters have breaks in them. Four comments are
read in a text of eight bytes, and the third has three breaks. -/
theorem steps_end_odd_delimiters :
    ∃ rule t, rule.blocks = [⟨[], "<".toList, false⟩, ⟨"<".toList, [], false⟩,
        ⟨"\n\n".toList, "\n".toList, false⟩] ∧
      rule.lineMarker = some "#\n".toList ∧ rule.MarksLines ∧ t = "<<\n\na\n#\n".toList ∧
      (∃ s, step rule Mark.start t = some s ∧ Mark.start.offset < s.mark.offset) ∧
      ∃ steps m r, Steps rule Mark.start t steps m r ∧ step rule m r = none ∧
        steps.length ≤ byteSize t ∧ steps.map (fun s => s.comment.stop) = [1, 2, 6, 7] := by
  let rule : Rule := ⟨"odd", [⟨[], "<".toList, false⟩, ⟨"<".toList, [], false⟩,
    ⟨"\n\n".toList, "\n".toList, false⟩], some "#\n".toList, true, false, false⟩
  let t := "<<\n\na\n#\n".toList
  have hrule : rule.MarksLines := by decide
  obtain ⟨hmoves, steps, m, r, hsteps, hend, -, hle, hscan, -⟩ := steps_end hrule t
  obtain ⟨s, hs⟩ : ∃ s, step rule Mark.start t = some s :=
    Option.isSome_iff_exists.1 (by decide +kernel)
  have hstops : (scan rule t).map Span.stop = [1, 2, 6, 7] := by decide +kernel
  refine ⟨rule, t, rfl, rfl, hrule, rfl, ⟨s, hs, (hmoves [] _ _ s .nil hs).1⟩, steps, m, r, hsteps,
    hend, hle, ?_⟩
  rw [← hstops, hscan, List.map_map]
  rfl

/-- A line comment takes nothing of a marker that begins with a break: its own line is empty, and
no line has all of the marker. -/
lemma readRun_break {marker : Text} (hbreak : marker.head? = some '\n') (m : Mark) (after : Text) :
    readRun marker m after =
      ⟨⟨.run marker, m.offset, m.line, []⟩, m, marker ++ after⟩ := by
  obtain ⟨p, rfl⟩ : ∃ p, marker = '\n' :: p := List.head?_eq_some_iff.1 hbreak
  have hmarks : marks ('\n' :: p) (untilBreak (p ++ after)) = false := by
    rw [marks, Bool.eq_false_iff, ne_eq, startsWith_iff]
    rintro ⟨r, hr⟩
    have hline : trimStart (untilBreak (p ++ after)) <:+ untilBreak (p ++ after) :=
      List.dropWhile_suffix _
    exact newline_not_mem_untilBreak _ (hline.subset (hr ▸ List.mem_cons_self))
  have hmore : moreLines ('\n' :: p) ('\n' :: (p ++ after)) = ([], '\n' :: (p ++ after)) := by
    rw [moreLines_newline, hmarks]
    rfl
  simp [readRun, untilBreak, fromBreak, hmore]

/-- A step that goes on where it began is taken any number of times. -/
lemma steps_replicate {rule : Rule} {m : Mark} {t : Text} {s : Step}
    (h : step rule m t = some s) (hmark : s.mark = m) (hrest : s.rest = t) (n : Nat) :
    Steps rule m t (List.replicate n s) m t := by
  induction n with
  | zero => exact .nil
  | succ n ih =>
    refine .cons h ?_
    rw [hmark, hrest]
    exact ih

/-- Where the marker begins with a break and there are no blocks, the loop never gets away from a
marker: it reads the same empty comment without end. -/
theorem steps_stuck {rule : Rule} {marker : Text} (hblocks : rule.blocks = [])
    (hmarker : rule.lineMarker = some marker) (hbreak : marker.head? = some '\n') (m : Mark)
    (after : Text) :
    ∃ s, ∀ n, Steps rule m (marker ++ after) (List.replicate n s) m (marker ++ after) := by
  have hne : marker ≠ [] := List.ne_nil_of_mem (List.mem_of_head? hbreak)
  have hdelimiters : rule.delimiters = [.line marker] := by
    simp [Rule.delimiters, hblocks, hmarker, Delimiter.opener, hne]
  have hseek : seek (.line marker) m (marker ++ after) = some ([], after) := by
    have hfirst : breakOn marker (marker ++ after) = some ([], after) :=
      breakOn_eq_some.2 (firstOccurrence_append rfl)
    rw [Opening.seek_eq, show (Delimiter.line marker).opener = marker from rfl, hfirst]
    rfl
  have hnext : Opening.next? rule m (marker ++ after) = some ⟨.line marker, [], after⟩ := by
    simp [Opening.next?, hdelimiters, Opening.of?, hseek, Opening.better]
  have hstep : step rule m (marker ++ after) = some (readRun marker m after) := by
    rw [step, hnext]
    rfl
  rw [readRun_break hbreak] at hstep
  exact ⟨_, steps_replicate hstep rfl rfl⟩

end Exemplar.Comment
