import Exemplar.Proofs.Text.Lines
import Exemplar.Proofs.Text.Trimming

/-!
# Words of a text

A blank ends the word before it and belongs to no word itself. So the words are the same however
many blanks stand between them, in front of them or behind them.
-/
namespace Exemplar.Text

/-- A run of characters that are not blank. -/
structure IsWord (w : Text) : Prop where
  nonempty : w ≠ []
  unblank : ∀ c ∈ w, isBlank c = false

@[simp] theorem noBlankFirst_cons {c : Char} {t : Text} :
    NoBlankFirst (c :: t) ↔ isBlank c = false := by
  simp [NoBlankFirst]

/-- The text does not end in a blank. -/
def NoBlankLast (t : Text) : Prop := ∀ c ∈ t.getLast?, isBlank c = false

lemma noBlankLast_trimEnd (t : Text) : NoBlankLast (trimEnd t) := fun _ => getLast?_trimEnd

lemma NoBlankLast.of_cons_cons {c d : Char} {t : Text} (h : NoBlankLast (c :: d :: t)) :
    NoBlankLast (d :: t) := by
  simpa [NoBlankLast] using h

lemma NoBlankLast.of_append {s t : Text} (h : NoBlankLast (s ++ t)) : NoBlankLast t := by
  cases t with
  | nil => simp [NoBlankLast]
  | cons c t => rwa [NoBlankLast, List.getLast?_append_of_ne_nil _ (by simp)] at h

lemma trimEnd_of_noBlankLast {t : Text} (h : NoBlankLast t) : trimEnd t = t := by
  rw [trimEnd_eq_rdropWhile, List.rdropWhile_eq_self_iff]
  intro hne
  have hlast := h _ (List.getLast?_eq_some_getLast hne)
  simp [hlast]

lemma trim_of_noBlank {t : Text} (hf : NoBlankFirst t) (hl : NoBlankLast t) : trim t = t := by
  rw [trim, trimEnd_of_noBlankLast hl, trimStart_of_noBlankFirst hf]

lemma noBlankFirst_trim (t : Text) : NoBlankFirst (trim t) := noBlankFirst_trimStart (trimEnd t)

lemma noBlankLast_trim (t : Text) : NoBlankLast (trim t) := by
  have h := noBlankLast_trimEnd t
  rw [← indent_append_trimStart (trimEnd t)] at h
  exact h.of_append

lemma isWord_of_mem_words {t w : Text} (h : w ∈ words t) : IsWord w := by
  obtain ⟨hw, hne⟩ := List.mem_filter.1 h
  exact ⟨by simpa using hne, not_mem_of_mem_splitBy hw⟩

/-- A blank cuts the words of a text in two. -/
lemma words_append_blank (s : Text) {c : Char} (hc : isBlank c = true) (t : Text) :
    words (s ++ c :: t) = words s ++ words t := by
  rw [words, splitBy_append_separator s hc, List.filter_append]
  rfl

lemma words_cons_blank {c : Char} (hc : isBlank c = true) (t : Text) :
    words (c :: t) = words t := words_append_blank [] hc t

lemma words_of_allBlank {t : Text} (h : allBlank t = true) : words t = [] := by
  rw [allBlank_iff] at h
  induction t with
  | nil => rfl
  | cons c t ih =>
    rw [words_cons_blank (h c (by simp))]
    exact ih fun d hd => h d (by simp [hd])

lemma words_of_isWord {w : Text} (h : IsWord w) : words w = [w] := by
  have hne := h.nonempty
  rw [words, splitBy_of_forall_not h.unblank]
  simp [hne]

/-- Blanks behind a text belong to no word. -/
lemma words_append_allBlank (s : Text) {b : Text} (hb : allBlank b = true) :
    words (s ++ b) = words s := by
  cases b with
  | nil => rw [List.append_nil]
  | cons c b =>
    rw [allBlank_iff, List.forall_mem_cons] at hb
    rw [words_append_blank s hb.1, words_of_allBlank (allBlank_iff.2 hb.2), List.append_nil]

lemma words_trimEnd (t : Text) : words (trimEnd t) = words t := by
  have hblank : allBlank (t.rtakeWhile isBlank) = true :=
    allBlank_iff.2 fun _ => List.mem_rtakeWhile_imp
  rw [trimEnd_eq_rdropWhile, ← words_append_allBlank _ hblank,
    List.rdropWhile_append_rtakeWhile]

/-- Blanks in front of a text or behind it belong to no word. -/
@[simp] theorem words_trim (t : Text) : words (trim t) = words t := by
  have hfront : ∀ b s : Text, allBlank b = true → words (b ++ s) = words s := by
    intro b s hb
    induction b with
    | nil => rfl
    | cons c b ih =>
      rw [allBlank_iff, List.forall_mem_cons] at hb
      rw [List.cons_append, words_cons_blank hb.1]
      exact ih (allBlank_iff.2 hb.2)
  calc words (trim t) = words (indent (trimEnd t) ++ trimStart (trimEnd t)) :=
        (hfront _ _ (allBlank_indent _)).symm
    _ = words (trimEnd t) := by rw [indent_append_trimStart]
    _ = words t := words_trimEnd t

/-- A break is a blank, and so is the return before it: cutting a text into lines cuts no word. -/
lemma words_lines (t : Text) : (lines t).flatMap words = words t := by
  have hreturn : ∀ l, words (dropReturn l) = words l := by
    intro l
    rcases dropReturn_eq l with ⟨he, -⟩ | he
    · rw [he]
    · conv_rhs => rw [he]
      exact (words_append_allBlank _ (by decide)).symm
  induction t using lineInduction with
  | nil => rfl
  | last l hne hl => rw [lines_of_not_mem hl hne, List.flatMap_singleton]
  | line l t hl ih =>
    rw [lines_newline_cons hl, List.flatMap_cons, hreturn, ih,
      words_append_blank l (by decide)]

lemma words_joinLines (ls : List Text) : words (joinLines ls) = ls.flatMap words := by
  induction ls with
  | nil => rfl
  | cons l ls ih =>
    cases ls with
    | nil => exact (List.append_nil _).symm
    | cons l' ls =>
      rw [List.flatMap_cons, ← ih]
      exact words_append_blank l (by decide) _

/-- A character before a blank, or before the end, is a word. -/
lemma words_cons_of_ends {c : Char} (hc : isBlank c = false) {t : Text}
    (ht : ¬ NoBlankFirst t ∨ t = []) : words (c :: t) = [c] :: words t := by
  have hword : words [c] = [[c]] := words_of_isWord ⟨by simp, by simpa using hc⟩
  cases t with
  | nil => exact hword
  | cons d t =>
    have hd : isBlank d = true := by simpa using ht
    have hsplit := words_append_blank [c] hd t
    rw [hword] at hsplit
    rw [words_cons_blank hd]
    exact hsplit

/-- A character before a word is a part of the word. -/
lemma words_cons_of_goesOn {c d : Char} (hc : isBlank c = false) (hd : isBlank d = false)
    (t : Text) : ∃ w ws, words (d :: t) = w :: ws ∧ words (c :: d :: t) = (c :: w) :: ws := by
  obtain ⟨w, ws, hs⟩ := List.exists_cons_of_ne_nil (splitBy_ne_nil isBlank t)
  refine ⟨d :: w, ws.filter (! ·.isEmpty), ?_, ?_⟩
  · simp [words, splitBy, hd, hs]
  · simp [words, splitBy, hc, hd, hs]

/-- Only a blank text has no words. -/
lemma allBlank_of_words {t : Text} (h : words t = []) : allBlank t = true := by
  induction t with
  | nil => rfl
  | cons c t ih =>
    by_cases hc : isBlank c = true
    · rw [words_cons_blank hc] at h
      rw [allBlank_iff, List.forall_mem_cons]
      exact ⟨hc, allBlank_iff.1 (ih h)⟩
    · rw [Bool.not_eq_true] at hc
      cases t with
      | nil => simp [words_cons_of_ends hc (.inr rfl)] at h
      | cons d t =>
        by_cases hd : isBlank d = true
        · simp [words_cons_of_ends hc (t := d :: t) (.inl (by simp [hd]))] at h
        · obtain ⟨w, ws, -, hcw⟩ := words_cons_of_goesOn hc (by simpa using hd) t
          rw [hcw] at h
          cases h

/-- The text with one space in the place of every run of blanks. -/
def squeeze : Text → Text
  | [] => []
  | c :: t =>
    if isBlank c then if NoBlankFirst t then ' ' :: squeeze t else squeeze t
    else c :: squeeze t

lemma squeeze_cons_of_blank {c : Char} (hc : isBlank c = true) (t : Text) :
    squeeze (c :: t) = if NoBlankFirst t then ' ' :: squeeze t else squeeze t := by
  rw [squeeze, if_pos hc]

lemma squeeze_cons_of_not_blank {c : Char} (hc : isBlank c = false) (t : Text) :
    squeeze (c :: t) = c :: squeeze t := by
  rw [squeeze, hc]
  rfl

end Exemplar.Text
