import Exemplar.Comment.Block
import Exemplar.Proofs.Comment.Reading
import Exemplar.Proofs.Text.Trimming

/-!
# Texts that are commented out

When the marker of line comments and a space are put in front of every line of a text, the
whole text is one run of line comments: nothing that the lines hold can open another comment
first. The block of that run has two spaces in front of every line.
-/
namespace Exemplar.Comment
open Text

/-- The line behind the marker of a line comment and a space. -/
def commentLine (marker l : Text) : Text := marker ++ ' ' :: l

/-- The text with all of its lines turned into line comments. Its last line has no break. -/
def commentOut (marker t : Text) : Text := joinLines ((lines t).map (commentLine marker))

/-- What is commented out are all lines of the text and no others. -/
theorem lines_commentOut (marker : Text) {t : Text} (ht : '\r' ∉ t) (hm : '\n' ∉ marker) :
    lines (commentOut marker t) = (lines t).map (commentLine marker) :=
  lines_joinLines_behind hm (fun _ hl => newline_not_mem_lines hl)
    fun _ hl hmem => ht (subset_of_mem_lines hl hmem)

namespace Rule

/-- Line comments of the rule begin with the marker. It has no blank in front, and no block
opens with a beginning of the marker or the other way round. -/
structure LedBy (rule : Rule) (marker : Text) : Prop where
  part : rule.wholeFile = false
  oneLine : rule.OneLine
  lineMarker : rule.lineMarker = some marker
  nonempty : marker ≠ []
  noBlank : NoBlankFirst marker
  apart : ∀ form ∈ rule.blocks, ¬ form.opener <+: marker ∧ ¬ marker <+: form.opener

/-- The rules known for file extensions are led by their markers. -/
theorem ledBy_of_mem_table {entry : List String × Rule} (he : entry ∈ table) {marker : Text}
    (hm : entry.2.lineMarker = some marker) : entry.2.LedBy marker := by
  have hall : ∀ entry ∈ table, ∀ marker ∈ entry.2.lineMarker,
      entry.2.wholeFile = false ∧ marker ≠ [] ∧ NoBlankFirst marker ∧
        ∀ form ∈ entry.2.blocks, ¬ form.opener <+: marker ∧ ¬ marker <+: form.opener := by
    decide
  obtain ⟨hpart, hne, hblank, hapart⟩ := hall entry he marker hm
  exact ⟨hpart, oneLine_of_mem_table entry he, hm, hne, hblank, hapart⟩

lemma LedBy.newline_not_mem {rule : Rule} {marker : Text} (h : rule.LedBy marker) :
    '\n' ∉ marker := h.oneLine.2 marker h.lineMarker

lemma LedBy.withSearchable {rule : Rule} {marker : Text} (h : rule.LedBy marker)
    (searchable : Bool) : (rule.withSearchable searchable).LedBy marker :=
  ⟨h.part, h.oneLine, h.lineMarker, h.nonempty, h.noBlank, h.apart⟩

end Rule

section
variable {rule : Rule} {marker : Text} (h : rule.LedBy marker)
include h

lemma trimStart_commentLine (l : Text) :
    trimStart (commentLine marker l) = commentLine marker l := by
  obtain ⟨c, m, rfl⟩ := List.exists_cons_of_ne_nil h.nonempty
  exact trimStart_of_noBlankFirst h.noBlank

lemma marks_commentLine (l : Text) : marks marker (commentLine marker l) = true := by
  rw [marks, trimStart_commentLine h, startsWith_iff]
  exact ⟨' ' :: l, rfl⟩

lemma unmarkLine_commentLine (l : Text) :
    unmarkLine marker (commentLine marker l) = [' ', ' '] ++ l := by
  rw [unmarkLine, trimStart_commentLine h, commentLine, stripPrefix?_append]
  rfl

lemma newline_not_mem_commentLines {ls : List Text} (hls : ∀ l ∈ ls, '\n' ∉ l) :
    ∀ l' ∈ ls.map (commentLine marker), '\n' ∉ l' := by
  intro l' hl'
  obtain ⟨l, hl, rfl⟩ := List.mem_map.1 hl'
  have hm := h.newline_not_mem
  have hn := hls l hl
  unfold commentLine
  simp [hm, hn]

/-- At the marker in front of a text no other delimiter of the rule comes first. -/
lemma first_line (t : Text) :
    Opening.First rule.delimiters [] (marker ++ t) ⟨.line marker, [], t⟩ := by
  refine ⟨⟨rfl, trivial⟩, Rule.mem_delimiters.2 ⟨h.nonempty, h.lineMarker⟩, ?_⟩
  rintro ⟨d, skipped, after⟩ hd ⟨hspells, -⟩
  obtain ⟨-, hd⟩ := Rule.mem_delimiters.1 hd
  cases skipped with
  | cons c skipped => exact .inl (Nat.succ_pos _)
  | nil =>
    cases d with
    | block form =>
      obtain ⟨hne, hne'⟩ := h.apart form hd
      have hopener : form.opener <+: marker ++ t := ⟨after, hspells.symm⟩
      rcases List.prefix_or_prefix_of_prefix hopener (List.prefix_append marker t) with hp | hp
      · exact absurd hp hne
      · exact absurd hp hne'
    | line marker' =>
      obtain rfl : marker = marker' := Option.some.inj (h.lineMarker.symm.trans hd)
      exact .inr ⟨rfl, .inr ⟨rfl, le_refl _⟩⟩

/-- All lines that are commented out belong to the first line comment. -/
lemma runsOver_joinLines {ls : List Text} (hne : ls ≠ []) (hls : ∀ l ∈ ls, '\n' ∉ l)
    {ending : Text} (hend : ending = [] ∨ ending = ['\n']) :
    RunsOver marker [] (joinLines (ls.map (commentLine marker)) ++ ending)
      (joinLines (ls.map (commentLine marker))) ending := by
  obtain ⟨l, ls, rfl⟩ := List.exists_cons_of_ne_nil hne
  have hlines := newline_not_mem_commentLines h hls
  have hmarks : ∀ l' ∈ ls.map (commentLine marker), marks marker l' = true := by
    intro l' hl'
    obtain ⟨l'', -, rfl⟩ := List.mem_map.1 hl'
    exact marks_commentLine h l''
  have hbody := pieces_joinLines (by simp) hlines
  refine ⟨rfl, ?_⟩
  rcases hend with rfl | rfl
  · refine ⟨commentLine marker l, ls.map (commentLine marker), ?_, ?_⟩
    · rw [List.append_nil, hbody]
      rfl
    · rw [hbody, List.takeWhile_eq_self_iff.2 hmarks]
      rfl
  · refine ⟨commentLine marker l, ls.map (commentLine marker) ++ [[]], ?_, ?_⟩
    · rw [joinLines_append_newline (by simp), pieces_joinLines (by simp) ?_]
      · rfl
      · intro l' hl'
        rcases List.mem_append.1 hl' with hl' | hl'
        · exact hlines l' hl'
        · simp [List.mem_singleton.1 hl']
    · -- the empty piece behind the final break has no marker
      have hempty : marks marker [] = false := by
        obtain ⟨c, m, rfl⟩ := List.exists_cons_of_ne_nil h.nonempty
        rfl
      rw [hbody, List.takeWhile_append_of_pos hmarks, List.takeWhile_cons_of_neg (by simp [hempty]),
        List.append_nil]
      rfl

lemma not_stands_ending {ending : Text} (hend : ending = [] ∨ ending = ['\n']) (before : Text)
    (o : Opening) (ho : o.delimiter ∈ rule.delimiters) : ¬ o.Stands before ending := by
  rintro ⟨hspells, -⟩
  have hopener : o.delimiter.opener <:+: ending := ⟨o.skipped, o.after, hspells.symm⟩
  obtain ⟨c, m, hc⟩ := List.exists_cons_of_ne_nil (Rule.mem_delimiters.1 ho).1
  have hmem : c ∈ ending := hopener.subset (by simp [hc])
  have hc' : c ≠ '\n' := by
    rintro rfl
    exact h.oneLine.newline_not_mem_opener ho (by simp [hc])
  rcases hend with rfl | rfl
  · simp at hmem
  · exact hc' (List.mem_singleton.1 hmem)

/-- The only comment of a text that is commented out is the run of all its lines. -/
theorem scan_joinLines {ls : List Text} (hne : ls ≠ []) (hls : ∀ l ∈ ls, '\n' ∉ l)
    {ending : Text} (hend : ending = [] ∨ ending = ['\n']) :
    scan rule (joinLines (ls.map (commentLine marker)) ++ ending) =
      [⟨.run marker, 0, 1, joinLines (ls.map (commentLine marker))⟩] := by
  obtain ⟨u, hu⟩ : ∃ u, joinLines (ls.map (commentLine marker)) ++ ending = marker ++ u := by
    obtain ⟨l, ls, rfl⟩ := List.exists_cons_of_ne_nil hne
    cases ls with
    | nil => exact ⟨' ' :: l ++ ending, by simp [joinLines, commentLine]⟩
    | cons l' ls =>
      refine ⟨' ' :: l ++ '\n' :: joinLines ((l' :: ls).map (commentLine marker)) ++ ending, ?_⟩
      rw [List.map_cons, joinLines_cons (by simp)]
      simp [commentLine]
  have hrun := runsOver_joinLines h hne hls hend
  have hcomments : Comments rule [] (joinLines (ls.map (commentLine marker)) ++ ending)
      [⟨.run marker, 0, 1, joinLines (ls.map (commentLine marker))⟩] := by
    rw [hu] at hrun ⊢
    exact .next (first_line h u) (.run hrun) hu.symm (.none (not_stands_ending h hend _))
  exact (comments_scanFrom h.oneLine [] _).unique hcomments

/-- Without its markers that run is the lines behind two spaces, and nothing is reported. -/
theorem extract_joinLines (hs : rule.searchable = true) {ls : List Text} (hne : ls ≠ [])
    (hls : ∀ l ∈ ls, '\n' ∉ l) {ending : Text} (hend : ending = [] ∨ ending = ['\n']) :
    ∃ b, (extract rule (joinLines (ls.map (commentLine marker)) ++ ending)).blocks = [b] ∧
      b.line = 1 ∧ b.text = joinLines (ls.map ([' ', ' '] ++ ·)) ∧
      (extract rule (joinLines (ls.map (commentLine marker)) ++ ending)).problems = [] := by
  have hlines := newline_not_mem_commentLines h hls
  let c : Span := ⟨.run marker, 0, 1, joinLines (ls.map (commentLine marker))⟩
  have hselected : selected rule none [c] = [c] := by
    simp [c, selected, Span.isCandidate, hs]
  have htext : c.text rule = joinLines (ls.map ([' ', ' '] ++ ·)) := by
    show unmark marker (joinLines (ls.map (commentLine marker))) = _
    rw [unmark, pieces_joinLines (by simpa using hne) hlines, List.map_map]
    congr 2
    funext l
    exact unmarkLine_commentLine h l
  refine ⟨c.toBlock rule, ?_, rfl, htext, ?_⟩
  · rw [extract_scanned h.part, scan_joinLines h hne hls hend]
    simp only
    rw [hselected]
    rfl
  · rw [extract_scanned h.part, scan_joinLines h hne hls hend]
    rfl

lemma extract_ending {ending : Text} (hend : ending = [] ∨ ending = ['\n']) :
    (extract rule ending).blocks = [] ∧ (extract rule ending).problems = [] := by
  have hscan : scan rule ending = [] :=
    (comments_scanFrom h.oneLine [] _).unique (.none (not_stands_ending h hend []))
  rw [extract_scanned h.part, hscan]
  exact ⟨rfl, rfl⟩

end

end Exemplar.Comment
