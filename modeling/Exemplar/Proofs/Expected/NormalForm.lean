import Exemplar.Proofs.Expected.Literal
import Exemplar.Proofs.Text.Words

/-!
# Normal form

Whether a text is in normal form shows at its blanks. By words, every blank is a space with a
character that is not blank behind it. By lines, every blank has something behind it, and only a
line break has a line break behind it. A text is brought into normal form in this sense, and a
text in normal form is left as it is. Two texts have the same normal form when they have the same
words, or the same lines but for blanks that end lines and empty lines that end the text.
-/
namespace Exemplar.Expected
open Text

/-- What stands behind the character `c` of a text in normal form; behind the last one stands
nothing. -/
def Fits (words : Bool) (c : Char) (next : Option Char) : Prop :=
  isBlank c = true →
    if words then c = ' ' ∧ ∃ d, next = some d ∧ isBlank d = false
    else next ≠ none ∧ (next = some '\n' → c = '\n')

/-- Every character has behind it what it may have. -/
def Settled (words : Bool) : Text → Prop
  | [] => True
  | c :: t => Fits words c t.head? ∧ Settled words t

/-- By words, no blank stands in front either. -/
structure InNormalForm (words : Bool) (t : Text) : Prop where
  settled : Settled words t
  first : words = true → NoBlankFirst t

section
variable {words : Bool} {s t : Text} {c : Char}

lemma fits_of_not_blank (hc : isBlank c = false) (next : Option Char) : Fits words c next := by
  simp [Fits, hc]

lemma not_fits_none (hc : isBlank c = true) : ¬ Fits words c none := by
  cases words <;> simp [Fits, hc]

lemma Settled.suffix (h : Settled words (s ++ t)) : Settled words t := by
  induction s with
  | nil => exact h
  | cons c s ih => exact ih h.2

lemma Settled.fits (h : Settled words (s ++ c :: t)) : Fits words c t.head? := h.suffix.1

/-- A character that is not blank may stand anywhere. -/
lemma settled_append (hs : ∀ c ∈ s, isBlank c = false) (ht : Settled words t) :
    Settled words (s ++ t) := by
  induction s with
  | nil => exact ht
  | cons c s ih =>
    rw [List.forall_mem_cons] at hs
    exact ⟨fits_of_not_blank hs.1 _, ih hs.2⟩

lemma Settled.noBlankLast (h : Settled words t) : NoBlankLast t := by
  intro c hc
  obtain ⟨s, rfl⟩ := List.getLast?_eq_some_iff.1 hc
  by_contra hb
  exact not_fits_none (by simpa using hb) h.fits

/-- The condition for words is the stronger one. -/
lemma Settled.byLines (h : Settled words t) : Settled false t := by
  cases words with
  | false => exact h
  | true =>
    induction t with
    | nil => trivial
    | cons c t ih =>
      refine ⟨fun hc => ?_, ih h.2⟩
      obtain ⟨-, d, hd, hb⟩ := h.1 hc
      rw [hd]
      refine ⟨by simp, fun he => ?_⟩
      obtain rfl : d = '\n' := by simpa using he
      cases hb

end

lemma joinWords_cons {w : Text} {ws : List Text} (h : ws ≠ []) :
    joinWords (w :: ws) = w ++ ' ' :: joinWords ws := by
  cases ws with
  | nil => exact absurd rfl h
  | cons v vs => rfl

/-- One space between neighbouring words is what becomes of the runs of blanks, but for a run in
front. -/
lemma squeeze_eq {t : Text} (h : NoBlankLast t) :
    squeeze t = (if NoBlankFirst t then [] else [' ']) ++ joinWords (words t) := by
  induction t with
  | nil => rfl
  | cons c t ih =>
    cases t with
    | nil =>
      have hc : isBlank c = false := h c rfl
      have hword : words [c] = [[c]] := words_of_isWord ⟨by simp, by simpa using hc⟩
      rw [squeeze_cons_of_not_blank hc, hword, if_pos (noBlankFirst_cons.2 hc)]
      rfl
    | cons d t =>
      have hrest := ih h.of_cons_cons
      by_cases hc : isBlank c = true
      · have hfirst : ¬ NoBlankFirst (c :: d :: t) := by simp [hc]
        rw [squeeze_cons_of_blank hc, words_cons_blank hc, hrest, if_neg hfirst]
        by_cases hd : NoBlankFirst (d :: t)
        · rw [if_pos hd, if_pos hd]
          rfl
        · rw [if_neg hd, if_neg hd]
      · rw [Bool.not_eq_true] at hc
        rw [squeeze_cons_of_not_blank hc, hrest, if_pos (noBlankFirst_cons.2 hc)]
        by_cases hd : isBlank d = true
        · -- the word ends here, and another one stands behind the blanks
          have hends : ¬ NoBlankFirst (d :: t) := by simp [hd]
          have hwords : words (d :: t) ≠ [] := by
            intro he
            have hblank := allBlank_iff.1 (allBlank_of_words he)
            have hlast := List.getLast?_eq_some_getLast (List.cons_ne_nil d t)
            have hb := h.of_cons_cons _ hlast
            rw [hblank _ (List.getLast_mem _)] at hb
            cases hb
          rw [words_cons_of_ends hc (.inl hends), joinWords_cons hwords, if_neg hends]
          rfl
        · rw [Bool.not_eq_true] at hd
          obtain ⟨w, ws, hw, hcw⟩ := words_cons_of_goesOn hc hd t
          rw [hw, hcw, if_pos (noBlankFirst_cons.2 hd)]
          cases ws <;> rfl

/-- By words, the blanks at the ends are trimmed and every other run of them becomes a space. -/
theorem normalize_words (t : Text) : normalize true t = squeeze (trim t) := by
  rw [squeeze_eq (noBlankLast_trim t), if_pos (noBlankFirst_trim t), words_trim]
  rfl

lemma words_joinWords {ws : List Text} (h : ∀ w ∈ ws, IsWord w) : words (joinWords ws) = ws := by
  induction ws with
  | nil => rfl
  | cons w ws ih =>
    rw [List.forall_mem_cons] at h
    cases ws with
    | nil => exact words_of_isWord h.1
    | cons v vs =>
      rw [joinWords, words_append_blank w (by decide), words_of_isWord h.1, ih h.2]
      · rfl
      · simp

lemma head?_squeeze {t : Text} (h : NoBlankFirst t) : (squeeze t).head? = t.head? := by
  cases t with
  | nil => rfl
  | cons c t =>
    rw [squeeze_cons_of_not_blank (h c rfl)]
    rfl

lemma settled_squeeze {t : Text} (h : NoBlankLast t) : Settled true (squeeze t) := by
  induction t with
  | nil => trivial
  | cons c t ih =>
    cases t with
    | nil =>
      rw [squeeze_cons_of_not_blank (h c rfl)]
      exact ⟨fits_of_not_blank (h c rfl) _, trivial⟩
    | cons d t =>
      have hrest := ih h.of_cons_cons
      by_cases hc : isBlank c = true
      · rw [squeeze_cons_of_blank hc]
        split
        · rename_i hd
          refine ⟨fun _ => ⟨rfl, d, ?_, hd d rfl⟩, hrest⟩
          rw [head?_squeeze hd]
          rfl
        · exact hrest
      · rw [Bool.not_eq_true] at hc
        rw [squeeze_cons_of_not_blank hc]
        exact ⟨fits_of_not_blank hc _, hrest⟩

lemma squeeze_of_settled {t : Text} (h : Settled true t) : squeeze t = t := by
  induction t with
  | nil => rfl
  | cons c t ih =>
    by_cases hc : isBlank c = true
    · obtain ⟨rfl, d, hd, hb⟩ := h.1 hc
      have hfirst : NoBlankFirst t := by
        intro e he
        rw [hd] at he
        cases he
        exact hb
      rw [squeeze_cons_of_blank hc, if_pos hfirst, ih h.2]
    · rw [squeeze_cons_of_not_blank (by simpa using hc), ih h.2]

/-- The lines of a text without the blanks that end them, and without the empty lines that end
the text. -/
def normalLines (t : Text) : List Text := ((lines t).map trimEnd).rdropWhile List.isEmpty

/-- Lines that end in no blank, the last of which is not empty. -/
structure Trimmed (ls : List Text) : Prop where
  newline : ∀ l ∈ ls, '\n' ∉ l
  ends : ∀ l ∈ ls, NoBlankLast l
  last : ls.getLast? ≠ some []

lemma dropBreaks_concat_newline (t : Text) : dropBreaks (t ++ ['\n']) = dropBreaks t := by
  unfold dropBreaks
  rw [dropEnd_eq_rdropWhile, dropEnd_eq_rdropWhile, List.rdropWhile_concat_pos _ _ _ (by simp)]

lemma dropBreaks_append {s t : Text} (hne : t ≠ []) (ht : '\n' ∉ t) :
    dropBreaks (s ++ t) = s ++ t := by
  unfold dropBreaks
  rw [dropEnd_eq_rdropWhile, List.rdropWhile_eq_self_iff]
  intro h
  rw [List.getLast_append_of_ne_nil _ hne, beq_iff_eq]
  intro he
  exact ht (he ▸ List.getLast_mem hne)

/-- The breaks that end joined lines are those of the empty lines at their end. -/
lemma dropBreaks_joinLines {ls : List Text} (h : ∀ l ∈ ls, '\n' ∉ l) :
    dropBreaks (joinLines ls) = joinLines (ls.rdropWhile List.isEmpty) := by
  induction ls using List.reverseRecOn with
  | nil => rfl
  | append_singleton ls l ih =>
    have hrest := ih fun m hm => h m (by simp [hm])
    have hl : '\n' ∉ l := h l (by simp)
    by_cases hempty : l = []
    · subst hempty
      rw [List.rdropWhile_concat_pos _ _ _ rfl, ← hrest]
      cases ls with
      | nil => rfl
      | cons m ls => rw [← joinLines_append_newline (by simp), dropBreaks_concat_newline]
    · rw [List.rdropWhile_concat_neg _ _ _ (by simpa using hempty)]
      cases ls with
      | nil => exact dropBreaks_append (s := []) hempty hl
      | cons m ls =>
        rw [joinLines_concat (by simp), List.append_cons, dropBreaks_append hempty hl]

/-- By lines, what is left of the lines is joined. -/
theorem normalize_lines (t : Text) : normalize false t = joinLines (normalLines t) := by
  refine dropBreaks_joinLines fun l hl => ?_
  obtain ⟨m, hm, rfl⟩ := List.mem_map.1 hl
  exact fun hn => newline_not_mem_lines hm ((trimEnd_isPrefix m).subset hn)

lemma trimmed_normalLines (t : Text) : Trimmed (normalLines t) := by
  have hmem : ∀ l ∈ normalLines t, ∃ m ∈ lines t, trimEnd m = l := fun l hl =>
    List.mem_map.1 ((List.rdropWhile_prefix _ _).subset hl)
  refine ⟨fun l hl => ?_, fun l hl => ?_, fun hlast => ?_⟩
  · obtain ⟨m, hm, rfl⟩ := hmem l hl
    exact fun hn => newline_not_mem_lines hm ((trimEnd_isPrefix m).subset hn)
  · obtain ⟨m, -, rfl⟩ := hmem l hl
    exact noBlankLast_trimEnd m
  · have hne : normalLines t ≠ [] := by
      intro he
      simp [he] at hlast
    rw [List.getLast?_eq_some_getLast hne, Option.some.injEq] at hlast
    have hlast' := List.rdropWhile_last_not List.isEmpty _ hne
    exact hlast' (List.isEmpty_iff.2 hlast)

namespace Trimmed

variable {ls : List Text} (h : Trimmed ls)
include h

lemma lines_joinLines : lines (joinLines ls) = ls := by
  refine Text.lines_joinLines h.newline (fun l hl hr => ?_) h.last
  have hb := h.ends l (List.dropLast_subset _ hl) _ hr
  exact absurd hb (by decide)

/-- Trimmed lines are what is left of them. -/
lemma normalLines_joinLines : normalLines (joinLines ls) = ls := by
  have hmap : ls.map trimEnd = ls := by
    conv_rhs => rw [← List.map_id ls]
    exact List.map_congr_left fun l hl => trimEnd_of_noBlankLast (h.ends l hl)
  rw [normalLines, h.lines_joinLines, hmap, List.rdropWhile_eq_self_iff]
  intro hne he
  refine h.last ?_
  rw [List.getLast?_eq_some_getLast hne, List.isEmpty_iff.1 he]

end Trimmed

/-- The last character of a line is not blank, and no other one has a break behind it. -/
lemma settled_line {l t : Text} (hn : '\n' ∉ l) (hb : NoBlankLast l) (ht : Settled false t) :
    Settled false (l ++ t) := by
  induction l with
  | nil => exact ht
  | cons c l ih =>
    cases l with
    | nil => exact ⟨fits_of_not_blank (hb c rfl) _, ht⟩
    | cons d l =>
      have hd : d ≠ '\n' := by
        rintro rfl
        simp at hn
      refine ⟨fun _ => ⟨by simp, by simp [hd]⟩, ih (fun hm => hn ?_) hb.of_cons_cons⟩
      exact List.mem_cons_of_mem c hm

lemma Trimmed.settled {ls : List Text} (h : Trimmed ls) : Settled false (joinLines ls) := by
  obtain ⟨hn, hb, hlast⟩ := h
  induction ls with
  | nil => trivial
  | cons l ls ih =>
    rw [List.forall_mem_cons] at hn hb
    cases ls with
    | nil =>
      have h := settled_line hn.1 hb.1 (t := []) trivial
      rwa [List.append_nil] at h
    | cons m ls =>
      have hlast' : (m :: ls).getLast? ≠ some [] := by simpa using hlast
      have hne : joinLines (m :: ls) ≠ [] := by
        cases ls with
        | nil => simpa [joinLines] using hlast'
        | cons k ls => simp [joinLines]
      rw [joinLines_cons (by simp)]
      refine settled_line hn.1 hb.1 ⟨fun _ => ⟨?_, fun _ => rfl⟩, ih hn.2 hb.2 hlast'⟩
      simpa using hne

/-- The pieces of a text in normal form are trimmed lines. -/
lemma Settled.trimmed_pieces {t : Text} (h : Settled false t) (hne : t ≠ []) :
    Trimmed (pieces t) := by
  refine ⟨fun l hl => newline_not_mem_pieces hl, fun l hl c hc => ?_, fun hlast => ?_⟩
  · by_contra hb
    rw [Bool.not_eq_false] at hb
    obtain ⟨l', rfl⟩ := List.getLast?_eq_some_iff.1 hc
    obtain ⟨u, v, rfl, hv⟩ := exists_of_mem_pieces hl
    have hcut : Settled false (u ++ l' ++ c :: v) := by simpa using h
    have hfits : Fits false c v.head? := hcut.fits
    rcases hv with rfl | hv
    · exact not_fits_none hb hfits
    · obtain rfl : c = '\n' := (hfits hb).2 hv
      exact newline_not_mem_pieces hl (by simp)
  · obtain ⟨init, hinit⟩ := List.getLast?_eq_some_iff.1 hlast
    have hjoin := joinLines_pieces t
    rw [hinit] at hjoin
    by_cases hnil : init = []
    · rw [hnil] at hjoin
      exact hne hjoin.symm
    · rw [← joinLines_append_newline hnil] at hjoin
      rw [← hjoin] at h
      exact not_fits_none rfl h.fits

theorem normalize_of_settled {t : Text} (h : Settled false t) : normalize false t = t := by
  by_cases hne : t = []
  · subst hne
    rfl
  · have htrim := h.trimmed_pieces hne
    have hlines := htrim.normalLines_joinLines
    rw [joinLines_pieces] at hlines
    rw [normalize_lines, hlines, joinLines_pieces]

theorem inNormalForm_normalize (words : Bool) (t : Text) :
    InNormalForm words (normalize words t) := by
  cases words with
  | true =>
    have hfirst := noBlankFirst_trim t
    rw [normalize_words]
    refine ⟨settled_squeeze (noBlankLast_trim t), fun _ => ?_⟩
    rwa [NoBlankFirst, head?_squeeze hfirst]
  | false =>
    rw [normalize_lines]
    exact ⟨(trimmed_normalLines t).settled, by simp⟩

section
variable {words : Bool} {t : Text} (h : InNormalForm words t)
include h

theorem InNormalForm.normalize_eq : normalize words t = t := by
  cases words with
  | true =>
    have htrim : trim t = t := trim_of_noBlank (h.first rfl) h.settled.noBlankLast
    rw [normalize_words, htrim, squeeze_of_settled h.settled]
  | false => exact normalize_of_settled h.settled

/-- A text in normal form is its lines, one below the other. -/
lemma InNormalForm.joinLines_lines : joinLines (lines t) = t := by
  by_cases hne : t = []
  · subst hne
    rfl
  · have hlines := (h.settled.byLines.trimmed_pieces hne).lines_joinLines
    rw [joinLines_pieces] at hlines
    rw [hlines, joinLines_pieces]

end

theorem normalize_normalize (words : Bool) (t : Text) :
    normalize words (normalize words t) = normalize words t :=
  (inNormalForm_normalize words t).normalize_eq

lemma words_dropBreaks (t : Text) : Text.words (dropBreaks t) = Text.words t := by
  have hblank : allBlank (t.rtakeWhile (· == '\n')) = true := by
    refine allBlank_iff.2 fun c hc => ?_
    obtain rfl : c = '\n' := by simpa using List.mem_rtakeWhile_imp hc
    decide
  rw [dropBreaks, dropEnd_eq_rdropWhile, ← words_append_allBlank _ hblank,
    List.rdropWhile_append_rtakeWhile]

/-- The normal form keeps the words. -/
lemma words_normalize (words : Bool) (t : Text) :
    Text.words (normalize words t) = Text.words t := by
  cases words with
  | true => exact words_joinWords fun _ => isWord_of_mem_words
  | false =>
    show Text.words (dropBreaks (joinLines ((lines t).map trimEnd))) = Text.words t
    rw [words_dropBreaks, words_joinLines, List.flatMap_map, ← words_lines t]
    exact List.flatMap_congr fun l _ => words_trimEnd l

/-- The normal form keeps the lines, but for what is no part of it. -/
lemma normalLines_normalize (t : Text) : normalLines (normalize false t) = normalLines t := by
  rw [normalize_lines, (trimmed_normalLines t).normalLines_joinLines]

theorem normalize_words_eq_iff {a b : Text} :
    normalize true a = normalize true b ↔ Text.words a = Text.words b := by
  constructor
  · intro h
    rw [← words_normalize true a, h, words_normalize]
  · exact congrArg joinWords

theorem normalize_lines_eq_iff {a b : Text} :
    normalize false a = normalize false b ↔ normalLines a = normalLines b := by
  constructor
  · intro h
    rw [← normalLines_normalize a, h, normalLines_normalize]
  · intro h
    rw [normalize_lines, normalize_lines, h]

/-- Normalizing a normal form changes nothing. By words, it trims the ends of a text and squeezes
its blanks, and texts have the same normal form when they have the same words. By lines, they have
it when their lines are the same without the blanks that end lines and the empty lines that end
the text. A pattern without wildcards accepts the output with the normal form of the expected
lines. -/
theorem normalize_decides :
    (∀ words t, normalize words (normalize words t) = normalize words t) ∧
    (∀ t, normalize true t = squeeze (trim t)) ∧
    (∀ a b, normalize true a = normalize true b ↔ Text.words a = Text.words b) ∧
    (∀ a b, normalize false a = normalize false b ↔
      ((lines a).map trimEnd).rdropWhile List.isEmpty =
        ((lines b).map trimEnd).rdropWhile List.isEmpty) ∧
    ∀ comparison expected p, Pattern.parse comparison expected = .ok p → p.hasWildcards = false →
      ∀ output, (p.matchOutput output).passed = true ↔
        normalize comparison.normWs (joinLines expected) = normalize comparison.normWs output := by
  refine ⟨normalize_normalize, normalize_words, ?_, ?_, ?_⟩
  · exact fun a b => normalize_words_eq_iff
  · exact fun a b => normalize_lines_eq_iff
  · exact fun comparison expected p hp hw output => Pattern.passed_of_not_hasWildcards hp hw output

/-- The carriage return and the empty lines are no part of the normal form. -/
theorem normalize_decides_blank_end :
    ∃ p, Pattern.parse .standard ["a ".toList, []] = .ok p ∧ p.hasWildcards = false ∧
      normalize false (joinLines ["a ".toList, []]) = normalize false "a\r\n\n".toList ∧
      (p.matchOutput "a\r\n\n".toList).passed = true := by
  have hs : Token.scan "a".toList = [.char 'a'] := by decide +kernel
  have hp := Pattern.parse_standard ["a ".toList, []] hs rfl
  have hsame : normalize false (joinLines ["a ".toList, []]) =
      normalize false "a\r\n\n".toList := by decide
  obtain ⟨-, -, -, -, hpassed⟩ := normalize_decides
  exact ⟨_, hp, rfl, hsame, (hpassed _ _ _ hp rfl _).2 hsame⟩

end Exemplar.Expected
