import Exemplar.Proofs.Text.Lines
import Mathlib.Data.List.DropRight
import Mathlib.Data.List.Infix

/-!
# Pieces of a part of a text

A part of a text begins on the line behind as many breaks as precede it, and each of its
pieces lies inside the piece of the text with the number counted from there. What stands on
the line before a place is the text behind the last break.
-/
namespace Exemplar.Text

lemma pieces_cons_newline (t : Text) : pieces ('\n' :: t) = [] :: pieces t := by
  simp [pieces, splitBy]

lemma pieces_cons_of_ne {c : Char} {t w : Text} {ws : List Text} (hc : c ≠ '\n')
    (h : pieces t = w :: ws) : pieces (c :: t) = (c :: w) :: ws := by
  rw [pieces] at h ⊢
  rw [splitBy, h]
  simp [hc]

lemma exists_pieces_eq_cons (t : Text) : ∃ w ws, pieces t = w :: ws :=
  List.exists_cons_of_ne_nil (splitBy_ne_nil _ t)

lemma beq_newline_of_not_mem {l : Text} (h : '\n' ∉ l) : ∀ c ∈ l, (c == '\n') = false := by
  intro c hc
  rw [beq_eq_false_iff_ne]
  rintro rfl
  exact h hc

lemma pieces_of_not_mem {l : Text} (h : '\n' ∉ l) : pieces l = [l] :=
  splitBy_of_forall_not (beq_newline_of_not_mem h)

lemma pieces_append_newline {l : Text} (h : '\n' ∉ l) (t : Text) :
    pieces (l ++ '\n' :: t) = l :: pieces t :=
  splitBy_append_cons (beq_newline_of_not_mem h) (by simp)

/-- There is one piece more than breaks. -/
@[simp] theorem length_pieces (t : Text) : (pieces t).length = newlines t + 1 := by
  induction t with
  | nil => rfl
  | cons c t ih =>
    by_cases hc : c = '\n'
    · subst hc
      rw [pieces_cons_newline, List.length_cons, ih]
      simp [newlines]
    · obtain ⟨w, ws, hp⟩ := exists_pieces_eq_cons t
      rw [pieces_cons_of_ne hc hp, List.length_cons, ← List.length_cons (a := w), ← hp, ih]
      simp [newlines, hc]

/-- More text behind a text makes its pieces longer at the end, and adds pieces. -/
lemma getElem?_pieces_append_right {b : Text} (c : Text) {i : Nat} {l : Text}
    (h : (pieces b)[i]? = some l) : ∃ l', (pieces (b ++ c))[i]? = some l' ∧ l <+: l' := by
  induction b generalizing i l with
  | nil =>
    obtain ⟨w, ws, hp⟩ := exists_pieces_eq_cons c
    obtain ⟨rfl, rfl⟩ : i = 0 ∧ l = [] := by
      cases i with
      | zero => exact ⟨rfl, by simpa [pieces, splitBy, eq_comm] using h⟩
      | succ i => simp [pieces, splitBy] at h
    exact ⟨w, by simp [hp], List.nil_prefix⟩
  | cons d b ih =>
    by_cases hd : d = '\n'
    · subst hd
      rw [pieces_cons_newline] at h
      rw [List.cons_append, pieces_cons_newline]
      cases i with
      | zero => exact ⟨[], rfl, by simp_all⟩
      | succ i => exact ih h
    · obtain ⟨w, ws, hp⟩ := exists_pieces_eq_cons b
      obtain ⟨w', ws', hp'⟩ := exists_pieces_eq_cons (b ++ c)
      rw [pieces_cons_of_ne hd hp] at h
      rw [List.cons_append, pieces_cons_of_ne hd hp']
      cases i with
      | zero =>
        obtain ⟨l', hl', hpre⟩ := ih (i := 0) (l := w) (by simp [hp])
        obtain rfl : w' = l' := by simpa [hp'] using hl'
        obtain rfl : d :: w = l := by simpa using h
        exact ⟨d :: w', rfl, List.cons_prefix_cons.2 ⟨rfl, hpre⟩⟩
      | succ i =>
        obtain ⟨l', hl', hpre⟩ := ih (i := i + 1) (l := l) (by simpa [hp] using h)
        exact ⟨l', by simpa [hp'] using hl', hpre⟩

/-- More text before a text makes its first piece longer at the beginning, and moves its
pieces behind the breaks of that text. -/
lemma getElem?_pieces_append_left (a : Text) {b : Text} {i : Nat} {l : Text}
    (h : (pieces b)[i]? = some l) :
    ∃ l', (pieces (a ++ b))[newlines a + i]? = some l' ∧ l <:+ l' := by
  induction a with
  | nil => exact ⟨l, by simpa using h, List.suffix_rfl⟩
  | cons d a ih =>
    obtain ⟨l', hl', hsuf⟩ := ih
    by_cases hd : d = '\n'
    · subst hd
      refine ⟨l', ?_, hsuf⟩
      have hn : newlines ('\n' :: a) + i = newlines a + i + 1 := by
        simp only [newlines, List.count_cons_self]
        omega
      rw [List.cons_append, pieces_cons_newline, hn]
      exact hl'
    · obtain ⟨w, ws, hp⟩ := exists_pieces_eq_cons (a ++ b)
      have hn : newlines (d :: a) + i = newlines a + i := by simp [newlines, hd]
      rw [List.cons_append, pieces_cons_of_ne hd hp, hn]
      rw [hp] at hl'
      cases hj : newlines a + i with
      | zero =>
        rw [hj] at hl'
        obtain rfl : w = l' := by simpa using hl'
        exact ⟨d :: w, rfl, hsuf.trans (List.suffix_cons d w)⟩
      | succ j =>
        rw [hj] at hl'
        exact ⟨l', by simpa using hl', hsuf⟩

/-- The pieces of a part of a text lie inside pieces of the text. -/
theorem getElem?_pieces_infix {a b : Text} (c : Text) {i : Nat} {l : Text}
    (h : (pieces b)[i]? = some l) :
    ∃ l', (pieces (a ++ b ++ c))[newlines a + i]? = some l' ∧ l <:+: l' := by
  obtain ⟨l₁, h₁, hpre⟩ := getElem?_pieces_append_right c h
  obtain ⟨l₂, h₂, hsuf⟩ := getElem?_pieces_append_left a h₁
  exact ⟨l₂, by rw [List.append_assoc]; exact h₂, hpre.isInfix.trans hsuf.isInfix⟩

/-- A line is the piece with its number, perhaps without a carriage return. -/
lemma getElem?_linesOfPieces {ps : List Text} {i : Nat} {l : Text}
    (h : (linesOfPieces ps)[i]? = some l) : ∃ p, ps[i]? = some p ∧ l <+: p := by
  induction ps generalizing i with
  | nil => simp [linesOfPieces] at h
  | cons p ps ih =>
    cases ps with
    | nil =>
      rw [linesOfPieces] at h
      split at h
      · simp at h
      · exact ⟨l, h, List.prefix_rfl⟩
    | cons p' ps' =>
      rw [linesOfPieces] at h
      · cases i with
        | zero =>
          obtain rfl : dropReturn p = l := by simpa using h
          exact ⟨p, rfl, dropReturn_isPrefix p⟩
        | succ i => exact ih h
      · simp

/-- There are no more lines than pieces: the empty piece behind a final break is no line. -/
lemma length_linesOfPieces_le (ps : List Text) : (linesOfPieces ps).length ≤ ps.length := by
  induction ps with
  | nil => simp [linesOfPieces]
  | cons p ps ih =>
    cases ps with
    | nil =>
      rw [linesOfPieces]
      split <;> simp
    | cons p' ps' =>
      rw [linesOfPieces]
      · simpa using ih
      · simp

lemma length_linesOfPieces {ps : List Text} (h : ∀ p ∈ ps, p ≠ []) :
    (linesOfPieces ps).length = ps.length := by
  induction ps with
  | nil => rfl
  | cons p ps ih =>
    cases ps with
    | nil => simp [linesOfPieces, h p (by simp)]
    | cons p' ps' =>
      have hrest := ih fun q hq => h q (List.mem_cons_of_mem p hq)
      rw [linesOfPieces]
      · rw [List.length_cons, hrest, List.length_cons (a := p)]
      · simp

/-- The line with the number `n` of a text that is cut at its breaks; the first line has the
number one. -/
def line? (t : Text) : Nat → Option Text
  | 0 => none
  | n + 1 => (pieces t)[n]?

/-- What stands behind the last break of a text. -/
def lastLine (t : Text) : Text := t.rtakeWhile (· != '\n')

lemma lastLine_concat (t : Text) (c : Char) :
    lastLine (t ++ [c]) = if c = '\n' then [] else lastLine t ++ [c] := by
  simp only [lastLine, List.rtakeWhile_concat]
  by_cases hc : c = '\n' <;> simp [hc]

lemma lastLine_append {s t : Text} (h : '\n' ∉ t) : lastLine (s ++ t) = lastLine s ++ t := by
  induction t using List.reverseRecOn with
  | nil => simp
  | append_singleton t c ih =>
    have hc : c ≠ '\n' := fun he => h (by simp [he])
    have ht : '\n' ∉ t := fun hm => h (by simp [hm])
    rw [← List.append_assoc, lastLine_concat, if_neg hc, ih ht, List.append_assoc]

end Exemplar.Text
