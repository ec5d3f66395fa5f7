import Exemplar.Proofs.Diff.Spelling
import Exemplar.Proofs.Text.Lines
import Mathlib

/-!
# Listings and the texts they list

Without carriage returns the lines of a difference are the lines of the texts. A listing writes
them in their order, each behind a sign that says in which of the texts it stands, so both texts can
be read off the listing again.
-/
namespace Exemplar.Diff
open Text

lemma splitLines_eq_splitInclusive {t : Text} (h : '\r' ∉ t) :
    splitLines t = splitInclusive t := by
  fun_induction splitLines t with
  | case1 => rfl
  | case2 t => simp at h
  | case3 c t _ hc ih =>
    rw [List.mem_cons, not_or] at h
    obtain rfl : c = '\n' := hc.resolve_right fun hr => h.1 hr.symm
    rw [splitInclusive, if_pos rfl, ih h.2]
  | case4 c t _ hc hnil ih =>
    rw [List.mem_cons, not_or] at h
    rw [splitInclusive, if_neg fun hn => hc (.inl hn), ← ih h.2, hnil]
  | case5 c t _ hc l ls hl ih =>
    rw [List.mem_cons, not_or] at h
    rw [splitInclusive, if_neg fun hn => hc (.inl hn), ← ih h.2, hl]

/-- A line without the breaks behind it. -/
def unbroken (l : Text) : Text := (l.reverse.dropWhile (· == '\n')).reverse

lemma unbroken_of_not_mem {l : Text} (h : '\n' ∉ l) : unbroken l = l := by
  have hkeep : l.reverse.dropWhile (· == '\n') = l.reverse := by
    cases hl : l.reverse with
    | nil => rfl
    | cons c u =>
      have hc : c ≠ '\n' := fun hc => h (List.mem_reverse.1 (hl ▸ hc ▸ List.mem_cons_self))
      simp [hc]
  rw [unbroken, hkeep, List.reverse_reverse]

lemma unbroken_append_newline {l : Text} (h : '\n' ∉ l) : unbroken (l ++ ['\n']) = l := by
  rw [unbroken, List.reverse_concat, List.dropWhile_cons_of_pos (by simp), ← unbroken,
    unbroken_of_not_mem h]

/-- The lines of a text are its pieces without their breaks. -/
lemma map_unbroken_splitInclusive {t : Text} (h : '\r' ∉ t) :
    (splitInclusive t).map unbroken = lines t := by
  induction t using lineInduction with
  | nil => rfl
  | last l hne hl =>
    rw [splitInclusive_of_not_mem hl hne, lines_of_not_mem hl hne, List.map_singleton,
      unbroken_of_not_mem hl]
  | line l t hl ih =>
    simp only [List.mem_append, List.mem_cons, not_or] at h
    have hlast : l.getLast? ≠ some '\r' := fun hr => h.1 (List.mem_of_getLast? hr)
    rw [splitInclusive_append_newline_cons hl, lines_newline_cons hl, List.map_cons,
      unbroken_append_newline hl, ih h.2.2, dropReturn_of_getLast? hlast]

/-- Lines that are ended by a break each are the lines of the text they make. -/
lemma lines_flatMap_newline {ls : List Text} (hn : ∀ l ∈ ls, '\n' ∉ l) (hr : ∀ l ∈ ls, '\r' ∉ l) :
    lines (ls.flatMap (· ++ ['\n'])) = ls := by
  induction ls with
  | nil => rfl
  | cons l ls ih =>
    rw [List.forall_mem_cons] at hn hr
    have hlast : l.getLast? ≠ some '\r' := fun h => hr.1 (List.mem_of_getLast? h)
    rw [List.flatMap_cons, List.append_assoc, List.singleton_append, lines_newline_cons hn.1,
      dropReturn_of_getLast? hlast, ih hn.2 hr.2]

/-- The sign in front of the lines of a kind. -/
def sign : Kind → Text
  | .equal => [' ', ' ']
  | .delete => ['-', ' ']
  | .insert => ['+', ' ']

/-- The lines of a change with what becomes of them. -/
def Change.rows : Change → List (Kind × Text)
  | same _ _ ls => ls.map (.equal, ·)
  | edit _ _ removed added => removed.map (.delete, ·) ++ added.map (.insert, ·)

/-- How a row is written. -/
def written (row : Kind × Text) : Text := sign row.1 ++ unbroken row.2

lemma signed_eq (kind : Kind) (l : Text) : signed (sign kind) l = written (kind, l) ++ ['\n'] := rfl

lemma listing_eq (c : Change) : c.listing = (c.rows.map written).flatMap (· ++ ['\n']) := by
  cases c with
  | same o n ls =>
    simp only [Change.listing, Change.rows, List.flatMap_map, ← signed_eq, sign]
  | edit o n removed added =>
    simp only [Change.listing, Change.rows, List.map_append, List.flatMap_append,
      List.flatMap_map, ← signed_eq, sign]

lemma ndiff_eq (expected actual : Text) : ndiff expected actual =
    (((changes expected actual).flatMap Change.rows).map written).flatMap (· ++ ['\n']) := by
  simp only [ndiff, List.map_flatMap, List.flatMap_assoc, ← listing_eq]

/-- The rows without the added lines are the old lines in their order. -/
lemma rows_old (cs : List Change) :
    ((cs.flatMap Change.rows).filter (·.1 ≠ .insert)).map Prod.snd = cs.flatMap Change.old := by
  induction cs with
  | nil => rfl
  | cons c cs ih =>
    rw [List.flatMap_cons, List.filter_append, List.map_append, ih, List.flatMap_cons]
    cases c <;> simp [Change.rows, Change.old, List.filter_map, Function.comp_def]

lemma rows_new (cs : List Change) :
    ((cs.flatMap Change.rows).filter (·.1 ≠ .delete)).map Prod.snd = cs.flatMap Change.new := by
  induction cs with
  | nil => rfl
  | cons c cs ih =>
    rw [List.flatMap_cons, List.filter_append, List.map_append, ih, List.flatMap_cons]
    cases c <;> simp [Change.rows, Change.new, List.filter_map, Function.comp_def]

/-- The signs differ, so a row shows its own sign and no other. -/
lemma sign_isPrefix_written {row : Kind × Text} {kind : Kind} :
    sign kind <+: written row ↔ row.1 = kind := by
  obtain ⟨k, l⟩ := row
  cases k <;> cases kind <;> simp [written, sign]

lemma drop_written (row : Kind × Text) : (written row).drop 2 = unbroken row.2 := by
  obtain ⟨k, l⟩ := row
  cases k <;> rfl

/-- The lines with one of two signs are the rows that are not of the third kind. -/
lemma filter_signs (kind other : Kind) (h : ∀ k : Kind, k = .equal ∨ k = kind ↔ k ≠ other)
    (rows : List (Kind × Text)) :
    ((rows.map written).filter fun l => sign .equal <+: l ∨ sign kind <+: l).map (·.drop 2) =
      ((rows.filter (·.1 ≠ other)).map Prod.snd).map unbroken := by
  induction rows with
  | nil => rfl
  | cons row rows ih =>
    have hsigns : sign .equal <+: written row ∨ sign kind <+: written row ↔ row.1 ≠ other := by
      rw [sign_isPrefix_written, sign_isPrefix_written, h]
    by_cases hrow : row.1 = other
    · rw [List.map_cons, List.filter_cons_of_neg (by simpa [hsigns] using hrow),
        List.filter_cons_of_neg (by simpa using hrow), ih]
    · rw [List.map_cons, List.filter_cons_of_pos (by simpa [hsigns] using hrow),
        List.filter_cons_of_pos (by simpa using hrow), List.map_cons, ih, drop_written,
        List.map_cons, List.map_cons]

/-- Every row is a line of one of the texts. -/
lemma mem_of_mem_rows {cs : List Change} {row : Kind × Text} (h : row ∈ cs.flatMap Change.rows) :
    row.2 ∈ cs.flatMap Change.old ∨ row.2 ∈ cs.flatMap Change.new := by
  rw [← rows_old, ← rows_new]
  by_cases hi : row.1 = .insert
  · exact .inr (List.mem_map_of_mem (List.mem_filter.2 ⟨h, by simp [hi]⟩))
  · exact .inl (List.mem_map_of_mem (List.mem_filter.2 ⟨h, by simp [hi]⟩))

section
variable {expected actual : Text} (he : '\r' ∉ expected) (ha : '\r' ∉ actual)
include he ha

/-- The rows are the lines of the listing. -/
lemma lines_ndiff : lines (ndiff expected actual) =
    ((changes expected actual).flatMap Change.rows).map written := by
  have hspell := changes_spell expected actual
  rw [splitLines_eq_splitInclusive he, splitLines_eq_splitInclusive ha] at hspell
  have hline : ∀ row ∈ (changes expected actual).flatMap Change.rows,
      '\n' ∉ unbroken row.2 ∧ '\r' ∉ unbroken row.2 := by
    intro row hrow
    rcases mem_of_mem_rows hrow with h | h
    · have hmem : unbroken row.2 ∈ lines expected := by
        rw [← map_unbroken_splitInclusive he, ← hspell.1]
        exact List.mem_map_of_mem h
      exact ⟨newline_not_mem_lines hmem, fun hr => he (subset_of_mem_lines hmem hr)⟩
    · have hmem : unbroken row.2 ∈ lines actual := by
        rw [← map_unbroken_splitInclusive ha, ← hspell.2]
        exact List.mem_map_of_mem h
      exact ⟨newline_not_mem_lines hmem, fun hr => ha (subset_of_mem_lines hmem hr)⟩
  have hsign : ∀ kind, '\n' ∉ sign kind ∧ '\r' ∉ sign kind := by
    rintro ⟨⟩ <;> decide
  rw [ndiff_eq]
  apply lines_flatMap_newline <;> rw [List.forall_mem_map] <;> intro row hrow hc
  · exact (List.mem_append.1 hc).elim (hsign _).1 (hline row hrow).1
  · exact (List.mem_append.1 hc).elim (hsign _).2 (hline row hrow).2

/-- Every line of a listing has one of three signs, and a break. The lines with one of the signs of
a text are, without the sign, the lines of this text in their order. -/
theorem render_ndiff_faithful :
    render .ndiff expected actual =
        (lines (render .ndiff expected actual)).flatMap (· ++ ['\n']) ∧
      (∀ l ∈ lines (render .ndiff expected actual),
        [' ', ' '] <+: l ∨ ['-', ' '] <+: l ∨ ['+', ' '] <+: l) ∧
      ((lines (render .ndiff expected actual)).filter fun l =>
        [' ', ' '] <+: l ∨ ['-', ' '] <+: l).map (·.drop 2) = lines expected ∧
      ((lines (render .ndiff expected actual)).filter fun l =>
        [' ', ' '] <+: l ∨ ['+', ' '] <+: l).map (·.drop 2) = lines actual := by
  have hspell := changes_spell expected actual
  rw [splitLines_eq_splitInclusive he, splitLines_eq_splitInclusive ha] at hspell
  simp only [render, lines_ndiff he ha]
  refine ⟨ndiff_eq expected actual, ?_, ?_, ?_⟩
  · rw [List.forall_mem_map]
    intro row _
    have hkind : row.1 = .equal ∨ row.1 = .delete ∨ row.1 = .insert := by
      cases row.1 <;> simp
    simpa only [← sign_isPrefix_written, sign] using hkind
  · have hold := filter_signs .delete .insert (by rintro ⟨⟩ <;> simp)
      ((changes expected actual).flatMap Change.rows)
    rwa [rows_old, hspell.1, map_unbroken_splitInclusive he] at hold
  · have hnew := filter_signs .insert .delete (by rintro ⟨⟩ <;> simp)
      ((changes expected actual).flatMap Change.rows)
    rwa [rows_new, hspell.2, map_unbroken_splitInclusive ha] at hnew

end

/-- An empty line moves, a line is replaced, and only one of the texts ends in a break, so that their
last lines differ. -/
theorem render_ndiff_faithful_unended :
    '\r' ∉ "a\n\nb\nc".toList ∧ '\r' ∉ "\na\nx\nc\n".toList ∧
      render .ndiff "a\n\nb\nc".toList "\na\nx\nc\n".toList =
        "+ \n  a\n- \n- b\n- c\n+ x\n+ c\n".toList ∧
      ((lines (render .ndiff "a\n\nb\nc".toList "\na\nx\nc\n".toList)).filter fun l =>
        [' ', ' '] <+: l ∨ ['-', ' '] <+: l).map (·.drop 2) = [['a'], [], ['b'], ['c']] ∧
      ((lines (render .ndiff "a\n\nb\nc".toList "\na\nx\nc\n".toList)).filter fun l =>
        [' ', ' '] <+: l ∨ ['+', ' '] <+: l).map (·.drop 2) = [[], ['a'], ['x'], ['c']] := by
  have he : '\r' ∉ "a\n\nb\nc".toList := by decide
  have ha : '\r' ∉ "\na\nx\nc\n".toList := by decide
  obtain ⟨-, -, hold, hnew⟩ := render_ndiff_faithful he ha
  exact ⟨he, ha, by cbv, hold, hnew⟩

end Exemplar.Diff
