import Exemplar.Proofs.Comment.Opening

/-!
# The comments of a text

What the scan reads is described without the scan: the next comment begins at the first
opening behind the one before, a block runs to its first closer, and a line comment runs over
its line and, if it is the first on its line, over all lines below that begin with the marker.
A text has exactly one such list of comments, and the scan finds it.
-/
namespace Exemplar.Comment
open Text

/-- The first text of a line that is not blank is the marker. -/
def marks (marker l : Text) : Bool := startsWith (trimStart l) marker

/-- A line comment that begins with the text `t` behind `before` is `body`. If only blanks
precede it on its line, it takes all further lines that the marker begins. -/
structure RunsOver (marker before t body rest : Text) : Prop where
  spells : t = body ++ rest
  lines : ∃ l ls, pieces t = l :: ls ∧ pieces body = l ::
    if allBlank (lastLine before) then ls.takeWhile (marks marker) else []

/-- The comment that begins behind `before` with the opener of a delimiter, the text `after`
that follows the opener, and what is left of it behind the comment. -/
inductive Reads (before : Text) : Delimiter → Text → Span → Text → Prop
  | closed {form : BlockForm} {after body rest : Text}
      (h : FirstOccurrence form.closer after body rest) :
      Reads before (.block form) after
        ⟨.block form true, byteSize before, newlines before + 1, body⟩ rest
  | unclosed {form : BlockForm} {after : Text} (h : ¬ form.closer <:+: after) :
      Reads before (.block form) after
        ⟨.block form false, byteSize before, newlines before + 1, after⟩ []
  | run {marker after body rest : Text} (h : RunsOver marker before (marker ++ after) body rest) :
      Reads before (.line marker) after
        ⟨.run marker, byteSize before, newlines before + 1, body⟩ rest

/-- The comments of the text `t` that follows `before`. -/
inductive Comments (rule : Rule) : Text → Text → List Span → Prop
  | none {before t : Text}
      (h : ∀ o : Opening, o.delimiter ∈ rule.delimiters → ¬ o.Stands before t) :
      Comments rule before t []
  | next {before t behind rest : Text} {o : Opening} {c : Span} {cs : List Span}
      (first : o.First rule.delimiters before t)
      (reads : Reads (before ++ o.skipped) o.delimiter o.after c rest)
      (spells : before ++ t = behind ++ rest)
      (more : Comments rule behind rest cs) :
      Comments rule before t (c :: cs)

section
variable {before t : Text}

lemma RunsOver.unique {marker body body' rest rest' : Text}
    (h : RunsOver marker before t body rest) (h' : RunsOver marker before t body' rest') :
    body = body' ∧ rest = rest' := by
  obtain ⟨hs, l, ls, hp, hb⟩ := h
  obtain ⟨hs', l', ls', hp', hb'⟩ := h'
  obtain ⟨rfl, rfl⟩ := List.cons.inj (hp.symm.trans hp')
  obtain rfl : body = body' := by rw [← joinLines_pieces body, hb, ← hb', joinLines_pieces]
  exact ⟨rfl, List.append_cancel_left (hs.symm.trans hs')⟩

/-- One comment is read at an opening. -/
lemma Reads.unique {d : Delimiter} {after rest rest' : Text} {c c' : Span}
    (h : Reads before d after c rest) (h' : Reads before d after c' rest') :
    c = c' ∧ rest = rest' := by
  cases h with
  | closed h =>
    cases h' with
    | closed h' =>
      obtain ⟨rfl, rfl⟩ := h.unique h'
      exact ⟨rfl, rfl⟩
    | unclosed h' => exact absurd ⟨_, _, h.spells.symm⟩ h'
  | unclosed h =>
    cases h' with
    | closed h' => exact absurd ⟨_, _, h'.spells.symm⟩ h
    | unclosed h' => exact ⟨rfl, rfl⟩
  | run h =>
    cases h' with
    | run h' =>
      obtain ⟨rfl, rfl⟩ := h.unique h'
      exact ⟨rfl, rfl⟩

/-- A text has one list of comments. -/
theorem Comments.unique {rule : Rule} {cs cs' : List Span} (h : Comments rule before t cs)
    (h' : Comments rule before t cs') : cs = cs' := by
  induction h generalizing cs' with
  | none hn =>
    cases h' with
    | none => rfl
    | next first => exact absurd first.toStands (hn _ first.listed)
  | next first reads spells _ ih =>
    cases h' with
    | none hn => exact absurd first.toStands (hn _ first.listed)
    | next first' reads' spells' more' =>
      obtain rfl := first.unique first'
      obtain ⟨rfl, rfl⟩ := reads.unique reads'
      obtain rfl := List.append_cancel_right (spells.symm.trans spells')
      rw [ih more']

end

/-- The lines below the break that begins a text. -/
def linesBelow : Text → List Text
  | [] => []
  | _ :: t => pieces t

lemma newline_not_mem_untilBreak (t : Text) : '\n' ∉ untilBreak t := fun h => by
  simpa using List.mem_takeWhile_imp h

@[simp] theorem untilBreak_append_fromBreak (t : Text) : untilBreak t ++ fromBreak t = t :=
  List.takeWhile_append_dropWhile

/-- The text from the first break on is empty or begins with the break. -/
lemma fromBreak_cases (t : Text) : fromBreak t = [] ∨ ∃ u, fromBreak t = '\n' :: u := by
  cases h : fromBreak t with
  | nil => exact .inl rfl
  | cons c u =>
    have hc := List.head?_dropWhile_not (· != '\n') t
    rw [show t.dropWhile (· != '\n') = fromBreak t from rfl, h] at hc
    obtain rfl : c = '\n' := by simpa using hc
    exact .inr ⟨u, rfl⟩

lemma pieces_eq_untilBreak (t : Text) :
    pieces t = untilBreak t :: linesBelow (fromBreak t) := by
  have hn := newline_not_mem_untilBreak t
  conv => lhs; rw [← untilBreak_append_fromBreak t]
  rcases fromBreak_cases t with h | ⟨u, h⟩
  · rw [h, List.append_nil, pieces_of_not_mem hn]
    rfl
  · rw [h, pieces_append_newline hn]
    rfl

lemma moreLines_newline (marker u : Text) :
    moreLines marker ('\n' :: u) =
      if marks marker (untilBreak u) then
        ('\n' :: untilBreak u ++ (moreLines marker (fromBreak u)).1,
          (moreLines marker (fromBreak u)).2)
      else ([], '\n' :: u) := by
  rw [moreLines]
  rfl

/-- The further lines of a run are the lines below that begin with the marker. -/
lemma moreLines_spec (marker : Text) {r : Text} (hr : r = [] ∨ ∃ u, r = '\n' :: u) :
    r = (moreLines marker r).1 ++ (moreLines marker r).2 ∧
      ∀ l, '\n' ∉ l → pieces (l ++ (moreLines marker r).1) =
        l :: (linesBelow r).takeWhile (marks marker) := by
  induction hn : r.length using Nat.strong_induction_on generalizing r with
  | _ n ih =>
    rcases hr with rfl | ⟨u, rfl⟩
    · refine ⟨by simp [moreLines], fun l hl => ?_⟩
      rw [moreLines, List.append_nil, pieces_of_not_mem hl]
      rfl
    · have hbelow : linesBelow ('\n' :: u) = untilBreak u :: linesBelow (fromBreak u) :=
        pieces_eq_untilBreak u
      rw [moreLines_newline, hbelow]
      by_cases hm : marks marker (untilBreak u) = true
      · have hlt : (fromBreak u).length < n := by
          have : (fromBreak u).length ≤ u.length := (List.dropWhile_sublist _).length_le
          rw [← hn, List.length_cons]
          omega
        obtain ⟨hspell, hpieces⟩ := ih _ hlt (fromBreak_cases u) rfl
        rw [if_pos hm]
        refine ⟨?_, fun l hl => ?_⟩
        · simp only [List.append_assoc, ← hspell, List.cons_append, untilBreak_append_fromBreak]
        · rw [List.cons_append, pieces_append_newline hl,
            hpieces _ (newline_not_mem_untilBreak u), List.takeWhile_cons_of_pos hm]
      · rw [if_neg hm]
        refine ⟨rfl, fun l hl => ?_⟩
        rw [List.takeWhile_cons_of_neg hm, List.append_nil, pieces_of_not_mem hl]

/-- What is known of a step: it reads the comment of an opener, and its mark is the one
behind the text `taken` that it has passed. -/
structure ReadBy (before : Text) (d : Delimiter) (after taken : Text) (s : Step) : Prop where
  reads : Reads before d after s.comment s.rest
  spells : d.opener ++ after = taken ++ s.rest
  mark : s.mark = Mark.start.pass (before ++ taken)

lemma readBlock_spec (form : BlockForm) (before after : Text) :
    ∃ taken, ReadBy before (.block form) after taken
      (readBlock form (Mark.start.pass before) after) := by
  rw [readBlock]
  cases hb : breakOn form.closer after with
  | none =>
    refine ⟨form.opener ++ after, ⟨?_, by simp [Delimiter.opener], by simp⟩⟩
    rw [Mark.pass_start]
    exact .unclosed (breakOn_eq_none.1 hb)
  | some found =>
    obtain ⟨body, rest⟩ := found
    have hf := breakOn_eq_some.1 hb
    refine ⟨form.opener ++ body ++ form.closer, ⟨?_, ?_, by simp⟩⟩
    · rw [Mark.pass_start]
      exact .closed hf
    · simp [Delimiter.opener, hf.spells]

lemma readRun_spec (marker before after : Text) :
    ∃ taken, ReadBy before (.line marker) after taken
      (readRun marker (Mark.start.pass before) after) := by
  let t := marker ++ after
  let more := if allBlank (lastLine before) then moreLines marker (fromBreak t)
    else ([], fromBreak t)
  have hmore : fromBreak t = more.1 ++ more.2 ∧
      pieces (untilBreak t ++ more.1) = untilBreak t ::
        if allBlank (lastLine before) then (linesBelow (fromBreak t)).takeWhile (marks marker)
        else [] := by
    have hn := newline_not_mem_untilBreak t
    by_cases hb : allBlank (lastLine before) = true
    · obtain ⟨hs, hp⟩ := moreLines_spec marker (fromBreak_cases t)
      simp only [more, hb, if_true]
      exact ⟨hs, hp _ hn⟩
    · simp only [more, hb]
      exact ⟨rfl, by simpa using pieces_of_not_mem hn⟩
  obtain ⟨hs, hp⟩ := hmore
  have hspell : t = untilBreak t ++ more.1 ++ more.2 := by
    rw [List.append_assoc, ← hs, untilBreak_append_fromBreak]
  have hstep : readRun marker (Mark.start.pass before) after =
      ⟨⟨.run marker, byteSize before, newlines before + 1, untilBreak t ++ more.1⟩,
        (Mark.start.pass before).pass (untilBreak t ++ more.1), more.2⟩ := by
    rw [readRun, Mark.pass_start]
  rw [hstep]
  exact ⟨untilBreak t ++ more.1, ⟨.run ⟨hspell, _, _, pieces_eq_untilBreak t, hp⟩, hspell,
    (Mark.pass_append _ _ _).symm⟩⟩

/-- A step reads the comment of the opening that the search has found. -/
lemma step_eq_some {rule : Rule} {before t : Text} {s : Step}
    (h : step rule (Mark.start.pass before) t = some s) :
    ∃ o : Opening, Opening.next? rule (Mark.start.pass before) t = some o ∧
      ∃ taken, ReadBy (before ++ o.skipped) o.delimiter o.after taken s := by
  obtain ⟨⟨d, skipped, after⟩, ho, rfl⟩ := Option.map_eq_some_iff.1 h
  refine ⟨_, ho, ?_⟩
  simp only [← Mark.pass_append]
  cases d with
  | block form => exact readBlock_spec form (before ++ skipped) after
  | line marker => exact readRun_spec marker (before ++ skipped) after

/-- A step reads the comment of the first opening, and a step is lacking only where no opening
stands. -/
lemma step_spec {rule : Rule} (hrule : rule.OneLine) (before t : Text) :
    (∀ s, step rule (Mark.start.pass before) t = some s →
      ∃ o : Opening, ∃ taken, o.First rule.delimiters before t ∧
        ReadBy (before ++ o.skipped) o.delimiter o.after taken s) ∧
      (step rule (Mark.start.pass before) t = none →
        ∀ o : Opening, o.delimiter ∈ rule.delimiters → ¬ o.Stands before t) := by
  obtain ⟨hsome, hnone⟩ := Opening.next?_spec hrule before t
  refine ⟨?_, fun h => hnone (Option.map_eq_none_iff.1 h)⟩
  intro s hs
  obtain ⟨o, ho, taken, h⟩ := step_eq_some hs
  exact ⟨o, taken, hsome o ho, h⟩

/-- A run of line comments is not empty, unless a break begins its marker. -/
lemma RunsOver.ne_nil {marker before after body rest : Text}
    (h : RunsOver marker before (marker ++ after) body rest) (hne : marker ≠ [])
    (hm : marker.head? ≠ some '\n') : body ≠ [] := by
  rintro rfl
  obtain ⟨-, l, ls, hp, hb⟩ := h
  obtain rfl : [] = l := (List.cons.inj hb).1
  obtain ⟨c, u, rfl⟩ := List.exists_cons_of_ne_nil hne
  have hc : c ≠ '\n' := by
    rintro rfl
    exact hm rfl
  obtain ⟨w, ws, hw⟩ := exists_pieces_eq_cons (u ++ after)
  rw [List.cons_append, pieces_cons_of_ne hc hw] at hp
  cases hp

/-- The reading of a comment moves on. -/
lemma Reads.length_lt {before after rest : Text} {d : Delimiter} {c : Span}
    (h : Reads before d after c rest) (hne : d.opener ≠ [])
    (hd : ∀ marker, d = .line marker → marker.head? ≠ some '\n') :
    rest.length < (d.opener ++ after).length := by
  have hpos := List.length_pos_iff.2 hne
  cases h with
  | closed h =>
    have := congrArg List.length h.spells
    simp only [List.length_append] at this ⊢
    omega
  | unclosed h =>
    simp only [List.length_append, List.length_nil]
    omega
  | @run marker _ _ _ h =>
    have := List.length_pos_iff.2 (h.ne_nil hne (hd marker rfl))
    show rest.length < (marker ++ _).length
    rw [h.spells, List.length_append]
    omega

/-- The scan finds the comments of a text. -/
theorem comments_scanFrom {rule : Rule} (hrule : rule.OneLine) (before t : Text) :
    Comments rule before t (scanFrom rule (Mark.start.pass before) t) := by
  induction hl : t.length using Nat.strong_induction_on generalizing before t with
  | _ n ih =>
    rw [scanFrom]
    obtain ⟨hsome, hnone⟩ := step_spec hrule before t
    cases hs : step rule (Mark.start.pass before) t with
    | none => exact .none (hnone hs)
    | some s =>
      obtain ⟨o, taken, hf, hr⟩ := hsome s hs
      have hspell : t = o.skipped ++ (taken ++ s.rest) := by
        rw [hf.spells, ← hr.spells, List.append_assoc]
      have hlt : s.rest.length < t.length := by
        have hn := hrule.newline_not_mem_opener hf.listed
        have := hr.reads.length_lt (Rule.mem_delimiters.1 hf.listed).1 fun marker hm hh =>
          hn (hm ▸ List.mem_of_head? hh)
        rw [hf.spells, List.append_assoc, List.length_append]
        omega
      simp only [if_pos hlt, hr.mark]
      refine .next hf hr.reads ?_ (ih _ (hl ▸ hlt) (before ++ o.skipped ++ taken) s.rest rfl)
      conv => lhs; rw [hspell]
      simp only [List.append_assoc]

end Exemplar.Comment
