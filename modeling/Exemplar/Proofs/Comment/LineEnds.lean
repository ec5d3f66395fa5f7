import Exemplar.Proofs.Comment.Lines
import Exemplar.Proofs.Text.LineEnds

/-!
# Comments and carriage returns

When no delimiter has a carriage return, those before line breaks hide no comment and open
none: the comments of a text are those of the text without them, of the same form and on the
same lines. Of the bodies only a run of line comments can be cut between a carriage return and
its line break, and then the carriage return is left at the end of its last line.
-/
namespace Exemplar.Comment
open Text

namespace Rule

/-- No delimiter of the rule has a carriage return. -/
def Returnless (rule : Rule) : Prop :=
  (∀ form ∈ rule.blocks, '\r' ∉ form.opener ∧ '\r' ∉ form.closer) ∧
    ∀ marker ∈ rule.lineMarker, '\r' ∉ marker

instance (rule : Rule) : Decidable rule.Returnless := by unfold Returnless; infer_instance

/-- The rules known for file extensions are of this kind. -/
theorem returnless_of_mem_table : ∀ entry ∈ table, entry.2.Returnless := by decide

lemma Returnless.return_not_mem_opener {rule : Rule} (h : rule.Returnless) {d : Delimiter}
    (hd : d ∈ rule.delimiters) : '\r' ∉ d.opener := by
  obtain ⟨-, hm⟩ := mem_delimiters.1 hd
  cases d with
  | block form => exact (h.1 form hm).1
  | line marker => exact h.2 marker hm

end Rule

lemma Delimiter.counts_unreturned {d : Delimiter} {before : Text} (h : d.Counts before) :
    d.Counts (unreturned before) := by
  cases d with
  | line marker => trivial
  | block form =>
    intro ho
    rw [lastLine_unreturned]
    have hi := h ho
    unfold isIndentation at hi ⊢
    rw [List.all_eq_true] at hi ⊢
    exact fun c hc => hi c (unreturned_subset _ hc)

/-- Where no line break follows, a carriage return does not stand before the place on its
line. -/
lemma Delimiter.Counts.of_unreturned {d : Delimiter} {before t : Text}
    (hret : Returning (before ++ t)) (ht : t.head? ≠ some '\n')
    (h : d.Counts (unreturned before)) : d.Counts before := by
  cases d with
  | line marker => trivial
  | block form =>
    intro ho
    obtain ⟨s, hs⟩ : lastLine before <:+ before := List.rtakeWhile_suffix _ _
    have hline : Returning (lastLine before) := by
      have hbefore := hret.prefix ht
      rw [← hs] at hbefore
      exact hbefore.suffix
    have hn : '\n' ∉ lastLine before := fun hm => by
      simpa using List.mem_rtakeWhile_imp hm
    have hi := h ho
    rwa [lastLine_unreturned, unreturned_eq_self (hline.return_not_mem hn)] at hi

namespace Opening

/-- The opening in the text without carriage returns. -/
def unreturned (o : Opening) : Opening :=
  ⟨o.delimiter, Text.unreturned o.skipped, Text.unreturned o.after⟩

variable {before t : Text} {o : Opening}

lemma Stands.unreturned (h : o.Stands before t) (hr : '\r' ∉ o.delimiter.opener) :
    o.unreturned.Stands (Text.unreturned before) (Text.unreturned t) where
  spells := by
    conv_lhs => rw [h.spells]
    rw [unreturned_append, unreturned_append, unreturned_eq_self hr]
    rfl
  counts := by
    have hc := Delimiter.counts_unreturned h.counts
    rw [unreturned_append] at hc
    exact hc

/-- Every opening of the text without carriage returns is one of the text. -/
lemma Stands.exists_returned (hret : Returning (before ++ t)) (hn : '\n' ∉ o.delimiter.opener)
    (hne : o.delimiter.opener ≠ [])
    (h : o.Stands (Text.unreturned before) (Text.unreturned t)) :
    ∃ p : Opening, p.Stands before t ∧ p.unreturned = o := by
  obtain ⟨d, skipped, after⟩ := o
  obtain ⟨u, v, ht, rfl, rfl⟩ := hret.suffix.exists_append hn h.spells
  refine ⟨⟨d, u, v⟩, ⟨ht, ?_⟩, rfl⟩
  have hhead : (d.opener ++ v).head? ≠ some '\n' := by
    obtain ⟨c, m, hc⟩ := List.exists_cons_of_ne_nil hne
    rw [show d.opener = c :: m from hc] at hn ⊢
    simp only [List.cons_append, List.head?_cons, ne_eq, Option.some.injEq]
    rintro rfl
    exact hn (List.mem_cons_self ..)
  have hcounts := h.counts
  simp only at hcounts
  rw [← unreturned_append] at hcounts
  refine hcounts.of_unreturned ?_ hhead
  rw [ht] at hret
  simpa only [List.append_assoc] using hret

/-- What stands between the places of two openings begins with the opener of the first one. -/
lemma Stands.mem_opener {p : Opening} (h : o.Stands before t) (hp : p.Stands before t)
    (hne : o.delimiter.opener ≠ []) {c : Char} {x : Text} (hx : o.skipped ++ c :: x = p.skipped) :
    c ∈ o.delimiter.opener := by
  have heq : o.skipped ++ (o.delimiter.opener ++ o.after) =
      o.skipped ++ (c :: (x ++ (p.delimiter.opener ++ p.after))) := by
    rw [← List.append_assoc, ← h.spells, hp.spells, ← hx]
    simp
  obtain ⟨a, m, hm⟩ := List.exists_cons_of_ne_nil hne
  have hcons := List.append_cancel_left heq
  rw [hm, List.cons_append] at hcons
  obtain rfl : a = c := (List.cons.inj hcons).1
  simp [hm]

/-- Carriage returns do not change which opening is the first. -/
lemma First.unreturned {ds : List Delimiter}
    (hds : ∀ d ∈ ds, d.opener ≠ [] ∧ '\n' ∉ d.opener ∧ '\r' ∉ d.opener)
    (hret : Returning (before ++ t)) (h : o.First ds before t) :
    o.unreturned.First ds (Text.unreturned before) (Text.unreturned t) := by
  obtain ⟨hne, -, hr⟩ := hds o.delimiter h.listed
  refine ⟨h.toStands.unreturned hr, h.listed, fun p' hp' hs' => ?_⟩
  obtain ⟨hpne, hpn, -⟩ := hds p'.delimiter hp'
  obtain ⟨p, hs, rfl⟩ := hs'.exists_returned hret hpn hpne
  have hpre := h.precedes p hp' hs
  have hleft : o.skipped <+: t :=
    ⟨o.delimiter.opener ++ o.after, by rw [h.spells, List.append_assoc]⟩
  have hright : p.skipped <+: t :=
    ⟨p.delimiter.opener ++ p.after, by rw [hs.spells, List.append_assoc]⟩
  have hle : o.skipped.length ≤ p.skipped.length := by
    rw [Precedes] at hpre
    omega
  obtain ⟨x, hx⟩ := List.prefix_of_prefix_length_le hleft hright hle
  have hlength : (Text.unreturned p.skipped).length =
      (Text.unreturned o.skipped).length + (Text.unreturned x).length := by
    rw [← hx, unreturned_append, List.length_append]
  have hlength' : p.skipped.length = o.skipped.length + x.length := by
    rw [← hx, List.length_append]
  rw [Precedes] at hpre ⊢
  show (Text.unreturned o.skipped).length < (Text.unreturned p.skipped).length ∨ _
  cases x with
  | nil =>
    have hzero : (Text.unreturned ([] : Text)).length = 0 := rfl
    rw [List.length_nil] at hlength'
    have hsame : (Text.unreturned o.skipped).length = (Text.unreturned p.skipped).length := by
      omega
    exact .inr ⟨hsame, (hpre.resolve_left (by omega)).2⟩
  | cons c x =>
    have hc : c ≠ '\r' := fun he => hr (he ▸ h.toStands.mem_opener hs hne hx)
    left
    have hpos : 0 < (Text.unreturned (c :: x)).length :=
      List.length_pos_of_mem (List.mem_filter.2 ⟨List.mem_cons_self .., by simpa using hc⟩)
    omega

end Opening

/-- The comment `c` is `c'` as it is read in a text without carriage returns. The body of `c'`
is a part of the text `t`, and the body of a block is not cut behind a carriage return. -/
structure Span.Returned (t : Text) (c c' : Span) : Prop where
  form_eq : c.form = c'.form
  line_eq : c.line = c'.line
  body_eq : c.body = unreturned c'.body
  part : c'.body <:+: t
  whole : ∀ form closed, c'.form = .block form closed → Returning c'.body
  marker : ∀ marker, c'.form = .run marker → '\r' ∉ marker

lemma marks_of_returned {marker l l' : Text} (hm : '\r' ∉ marker) (h : Text.Returned l l') :
    marks marker l = marks marker l' := by
  unfold marks
  rcases h.2 with rfl | rfl
  · rfl
  · rw [trimStart_concat_return]
    by_cases hb : allBlank l = true
    · rw [if_pos hb, trimStart_eq_nil.2 hb]
    · rw [if_neg hb, startsWith_concat hm]

lemma takeWhile_congr {α : Type} {p q : α → Bool} {as : List α} (h : ∀ a ∈ as, p a = q a) :
    as.takeWhile p = as.takeWhile q := by
  induction as with
  | nil => rfl
  | cons a as ih =>
    have ha := h a (List.mem_cons_self ..)
    have hrest := ih fun b hb => h b (List.mem_cons_of_mem a hb)
    rw [List.takeWhile_cons, List.takeWhile_cons, ha, hrest]

lemma filterMap_of_forall₂ {α β γ : Type} {R : α → β → Prop} {f : α → Option γ}
    {g : β → Option γ} (hfg : ∀ a b, R a b → f a = g b) {as : List α} {bs : List β}
    (h : List.Forall₂ R as bs) : as.filterMap f = bs.filterMap g := by
  induction h with
  | nil => rfl
  | cons hab _ ih => rw [List.filterMap_cons, List.filterMap_cons, hfg _ _ hab, ih]

/-- Line comments run as far with carriage returns as without. -/
lemma runsOver_unreturned {marker before t body rest : Text} (h : RunsOver marker before t body rest)
    (ht : Returning t) (hm : '\r' ∉ marker) :
    RunsOver marker (unreturned before) (unreturned t) (unreturned body) (unreturned rest) := by
  obtain ⟨hspells, l, ls, ht', hbody⟩ := h
  refine ⟨by rw [hspells, unreturned_append], unreturned l, ls.map unreturned, ?_, ?_⟩
  · rw [pieces_unreturned, ht']
    rfl
  · have hmarks : ∀ k ∈ ls, (marks marker ∘ unreturned) k = marks marker k := by
      intro k hk
      have hpiece : k ∈ pieces t := by
        rw [ht']
        exact List.mem_cons_of_mem l hk
      have hinfix := isInfix_of_mem_pieces hpiece
      exact marks_of_returned hm (ht.returned hinfix (newline_not_mem_pieces hpiece))
    rw [pieces_unreturned, hbody, lastLine_unreturned, allBlank_unreturned]
    split
    · rw [List.takeWhile_map, takeWhile_congr hmarks]
      rfl
    · rfl

/-- A comment is read in the same way without carriage returns. -/
lemma reads_unreturned {rule : Rule} (hone : rule.OneLine) (hrule : rule.Returnless)
    {before after rest : Text} {d : Delimiter} {c' : Span} (hd : d ∈ rule.delimiters)
    (hret : Returning (before ++ (d.opener ++ after))) (h : Reads before d after c' rest) :
    ∃ c, Reads (unreturned before) d (unreturned after) c (unreturned rest) ∧
      c.Returned (before ++ (d.opener ++ after)) c' := by
  obtain ⟨-, hlisted⟩ := Rule.mem_delimiters.1 hd
  have hafter : Returning after := hret.suffix.suffix
  cases h with
  | @closed form _ body _ h =>
    have hn : '\n' ∉ form.closer := (hone.1 form hlisted).2
    have hr : '\r' ∉ form.closer := (hrule.1 form hlisted).2
    refine ⟨_, .closed (h.unreturned hafter hn hr), ⟨rfl, by simp, rfl, ?_, ?_, by simp⟩⟩
    · rw [h.spells]
      exact ⟨before ++ form.opener, form.closer ++ rest, by simp [Delimiter.opener]⟩
    · intro _ _ _
      show Returning body
      cases hc : form.closer with
      | nil =>
        have hle := h.earliest [] after (by simp [hc])
        rw [List.length_eq_zero_iff.1 (Nat.le_zero.1 hle)]
        exact .nil
      | cons a m =>
        have hbody : Returning (body ++ (form.closer ++ rest)) := by
          rw [← List.append_assoc, ← h.spells]
          exact hafter
        refine hbody.prefix ?_
        rw [hc] at hn ⊢
        simp only [List.cons_append, List.head?_cons, ne_eq, Option.some.injEq]
        rintro rfl
        exact hn (List.mem_cons_self ..)
  | @unclosed form _ h =>
    have hn : '\n' ∉ form.closer := (hone.1 form hlisted).2
    have hopen : ¬ form.closer <:+: Text.unreturned after := by
      rintro ⟨u, v, he⟩
      obtain ⟨u', v', hafter', -, -⟩ := hafter.exists_append hn he.symm
      exact h ⟨u', v', hafter'.symm⟩
    refine ⟨_, .unclosed hopen, ⟨rfl, by simp, rfl, ?_, fun _ _ _ => hafter, by simp⟩⟩
    exact ⟨before ++ form.opener, [], by simp [Delimiter.opener]⟩
  | @run marker _ body _ h =>
    have hm : '\r' ∉ marker := hrule.2 marker hlisted
    have hrun := runsOver_unreturned h hret.suffix hm
    rw [unreturned_append, unreturned_eq_self hm] at hrun
    refine ⟨_, .run hrun, ⟨rfl, by simp, rfl, ?_, by simp, ?_⟩⟩
    · show body <:+: before ++ (marker ++ after)
      rw [h.spells]
      exact ⟨before, rest, by simp⟩
    · rintro _ ⟨⟩
      exact hm

/-- The comments of a text are those of the text without its carriage returns. -/
theorem comments_unreturned {rule : Rule} (hone : rule.OneLine) (hrule : rule.Returnless)
    {before t : Text} {cs' : List Span} (h : Comments rule before t cs')
    (hret : Returning (before ++ t)) :
    ∃ cs, Comments rule (unreturned before) (unreturned t) cs ∧
      List.Forall₂ (Span.Returned (before ++ t)) cs cs' := by
  have hds : ∀ d ∈ rule.delimiters, d.opener ≠ [] ∧ '\n' ∉ d.opener ∧ '\r' ∉ d.opener :=
    fun d hd => ⟨(Rule.mem_delimiters.1 hd).1, hone.newline_not_mem_opener hd,
      hrule.return_not_mem_opener hd⟩
  induction h with
  | none h =>
    refine ⟨[], .none fun o ho hs => ?_, .nil⟩
    obtain ⟨hne, hn, -⟩ := hds o.delimiter ho
    obtain ⟨p, hp, rfl⟩ := hs.exists_returned hret hn hne
    exact h p ho hp
  | @next before t behind rest o c' cs' first reads spells _ ih =>
    have htext : before ++ t = before ++ o.skipped ++ (o.delimiter.opener ++ o.after) := by
      rw [first.spells]
      simp only [List.append_assoc]
    obtain ⟨c, hreads, hc⟩ := reads_unreturned hone hrule first.listed (htext ▸ hret) reads
    obtain ⟨cs, hmore, hcs⟩ := ih (spells ▸ hret)
    rw [← htext] at hc
    rw [← spells] at hcs
    refine ⟨c :: cs, .next (first.unreturned hds hret) ?_ ?_ hmore, .cons hc hcs⟩
    · rw [unreturned_append] at hreads
      exact hreads
    · rw [← unreturned_append, spells, unreturned_append]

lemma undecorateLine_concat_return (l : Text) :
    undecorateLine (l ++ ['\r']) = undecorateLine l ++ ['\r'] := by
  cases l with
  | nil => rfl
  | cons c t =>
    have hdrop : (t ++ ['\r']).dropWhile isDecoration = t.dropWhile isDecoration ++ ['\r'] := by
      rw [List.dropWhile_append]
      split
      · rename_i he
        rw [List.isEmpty_iff.1 he]
        rfl
      · rfl
    rw [List.cons_append, undecorateLine, undecorateLine]
    by_cases hc : isDecoration c = true
    · rw [if_pos hc, if_pos hc, hdrop]
      rfl
    · rw [if_neg hc, if_neg hc]
      rfl

lemma unmarkLine_concat_return {marker : Text} (hm : '\r' ∉ marker) (l : Text) :
    unmarkLine marker (l ++ ['\r']) = unmarkLine marker l ∨
      unmarkLine marker (l ++ ['\r']) = unmarkLine marker l ++ ['\r'] := by
  unfold unmarkLine
  rw [trimStart_concat_return]
  by_cases hb : allBlank l = true
  · left
    rw [if_pos hb, trimStart_eq_nil.2 hb]
  · right
    rw [if_neg hb]
    simp only [stripPrefix?_concat hm]
    cases stripPrefix? marker (trimStart l) <;> rfl

/-- No line of a run is left empty. -/
lemma ne_nil_of_mem_pieces_text (rule : Rule) {c : Span} {marker : Text}
    (hf : c.form = .run marker) : ∀ p ∈ pieces (c.text rule), p ≠ [] := by
  rw [pieces_text]
  intro p hp
  obtain ⟨l, -, rfl⟩ := List.mem_map.1 hp
  unfold Span.bare
  rw [hf]
  exact List.cons_ne_nil _ _

/-- There is a line for each line of a run. -/
lemma length_lines_text (rule : Rule) {c : Span} {marker : Text} (hf : c.form = .run marker) :
    (lines (c.text rule)).length = newlines c.body + 1 := by
  rw [lines, length_linesOfPieces (ne_nil_of_mem_pieces_text rule hf), pieces_text,
    List.length_map, length_pieces]

section
variable {t : Text} {c c' : Span} (h : c.Returned t c') (rule : Rule)
include h

lemma Span.Returned.bare {l l' : Text} (hl : Text.Returned l l') :
    Text.Returned (c.bare rule l) (c'.bare rule l') := by
  refine ⟨(bared_bare rule c l).not_mem (by decide) hl.1, ?_⟩
  rcases hl.2 with rfl | rfl
  · left
    unfold Span.bare
    rw [h.form_eq]
  · unfold Span.bare
    rw [h.form_eq]
    cases hf : c'.form with
    | block form closed =>
      right
      by_cases hd : rule.decorated = true
      · simp only [hd, if_true]
        exact undecorateLine_concat_return l
      · simp [hd]
    | run marker => exact unmarkLine_concat_return (h.marker marker hf) l

lemma Span.Returned.forall₂_pieces (ht : Returning t) :
    List.Forall₂ Text.Returned (pieces (c.text rule)) (pieces (c'.text rule)) := by
  rw [pieces_text, pieces_text, h.body_eq, List.forall₂_map_left_iff, List.forall₂_map_right_iff]
  exact (ht.forall₂_pieces h.part).imp fun _ _ hl => h.bare rule hl

lemma Span.Returned.getLast?_pieces {form : BlockForm} {closed : Bool}
    (hf : c'.form = .block form closed) :
    (pieces (c.text rule)).getLast? = (pieces (c'.text rule)).getLast? := by
  have hbare : c.bare rule = c'.bare rule := by
    unfold Span.bare
    rw [h.form_eq]
  have hlast := (h.whole form closed hf).getLast?_pieces
  rw [pieces_text, pieces_text, h.body_eq, List.getLast?_map, List.getLast?_map, hlast, hbare]

/-- The lines of a block are read without their carriage returns. The last line of a run of line
comments may keep one. -/
theorem Span.Returned.lines_text (ht : Returning t) :
    lines (c'.text rule) = lines (c.text rule) ∨
      (∃ marker, c.form = .run marker) ∧ lines (c'.text rule) = returnLast (lines (c.text rule)) := by
  obtain ⟨hsame, hreturn⟩ := linesOfPieces_returned (h.forall₂_pieces rule ht)
  cases hf : c'.form with
  | block form closed => exact .inl (hsame (h.getLast?_pieces rule hf))
  | run marker =>
    have hrun : c.form = .run marker := h.form_eq.trans hf
    rcases hreturn (ne_nil_of_mem_pieces_text rule hrun) with he | he
    · exact .inl he
    · exact .inr ⟨⟨marker, hrun⟩, he⟩

lemma Span.Returned.return_not_mem : ∀ l ∈ lines (c.text rule), '\r' ∉ l := by
  intro l hl hr
  obtain ⟨p, hp, hpre⟩ := mem_linesOfPieces hl
  rw [pieces_text] at hp
  obtain ⟨w, hw, rfl⟩ := List.mem_map.1 hp
  have hbody : '\r' ∉ w := fun hm => by
    have hmem := (isInfix_of_mem_pieces hw).subset hm
    rw [h.body_eq] at hmem
    exact return_not_mem_unreturned _ hmem
  exact (bared_bare rule c w).not_mem (by decide) hbody (hpre.subset hr)

lemma Span.Returned.isSwitch_eq : c.isSwitch = c'.isSwitch := by
  unfold Span.isSwitch
  rw [h.form_eq, h.body_eq, allBlank_unreturned]

lemma Span.Returned.after_eq (region : Region) : region.after c = region.after c' := by
  unfold Region.after
  rw [h.isSwitch_eq, h.line_eq]

lemma Span.Returned.isCandidate_eq : c.isCandidate rule = c'.isCandidate rule := by
  unfold Span.isCandidate
  rw [h.form_eq, h.body_eq, allBlank_unreturned]

lemma Span.Returned.unterminated?_eq : c.unterminated? = c'.unterminated? := by
  unfold Span.unterminated?
  rw [h.form_eq, h.line_eq]

end

section
variable {t : Text} {cs cs' : List Span} (h : List.Forall₂ (Span.Returned t) cs cs')
include h

lemma forall₂_selected (rule : Rule) (region : Region) :
    List.Forall₂ (Span.Returned t) (selected rule region cs) (selected rule region cs') := by
  induction h generalizing region with
  | nil => exact .nil
  | cons hc _ ih =>
    rw [selected, selected, hc.isCandidate_eq rule, hc.after_eq region]
    split
    · exact .cons hc (ih _)
    · exact ih _

lemma afterAll_of_returned (region : Region) :
    Region.afterAll region cs = Region.afterAll region cs' := by
  induction h generalizing region with
  | nil => rfl
  | cons hc _ ih =>
    unfold Region.afterAll at ih ⊢
    rw [List.foldl_cons, List.foldl_cons, hc.after_eq region]
    exact ih _

end

/-- Carriage returns before line breaks change no problem, and the comments that are looked for
examples are the same ones. -/
theorem extract_unreturned {rule : Rule} (hone : rule.OneLine) (hrule : rule.Returnless)
    (hpart : rule.wholeFile = false) {t : Text} (ht : Returning t) :
    (extract rule (unreturned t)).problems = (extract rule t).problems ∧
      List.Forall₂ (Span.Returned t) (selected rule none (scan rule (unreturned t)))
        (selected rule none (scan rule t)) := by
  obtain ⟨cs, hcs, hall⟩ := comments_unreturned hone hrule (comments_scanFrom hone [] t) ht
  have hscan : scan rule (unreturned t) = cs := (comments_scanFrom hone [] _).unique hcs
  rw [extract_scanned hpart, extract_scanned hpart, hscan]
  refine ⟨?_, forall₂_selected hall rule none⟩
  rw [filterMap_of_forall₂ (fun _ _ hc => hc.unterminated?_eq) hall, afterAll_of_returned hall]
  rfl

end Exemplar.Comment
