import Exemplar.Text.Lines
import Mathlib.Data.List.Forall2

/-!
# Joining and splitting lines

Joined lines are split into the same lines again when none holds a line break, none but
the last ends in a carriage return, and the last is not empty. The lines of a text hold no
line break, and unless the text has two carriage returns before a line break only the last
can end in one.
-/
namespace Exemplar.Text

lemma splitBy_of_forall_not {p : Char → Bool} {t : Text} (h : ∀ c ∈ t, p c = false) :
    splitBy p t = [t] := by
  induction t with
  | nil => rfl
  | cons c t ih =>
    have hc := h c (by simp)
    rw [splitBy, ih fun d hd => h d (by simp [hd])]
    simp [hc]

/-- A separator cuts the text in two. -/
lemma splitBy_append_separator {p : Char → Bool} (s : Text) {c : Char} (hc : p c = true)
    (t : Text) : splitBy p (s ++ c :: t) = splitBy p s ++ splitBy p t := by
  induction s with
  | nil => simp [splitBy, hc]
  | cons d s ih =>
    rw [List.cons_append, splitBy, splitBy, ih]
    obtain ⟨w, ws, hs⟩ := List.exists_cons_of_ne_nil (splitBy_ne_nil p s)
    rw [hs]
    by_cases hd : p d = true <;> simp [hd]

/-- A separator ends the piece before it. -/
lemma splitBy_append_cons {p : Char → Bool} {s t : Text} {c : Char} (h : ∀ d ∈ s, p d = false)
    (hc : p c = true) : splitBy p (s ++ c :: t) = s :: splitBy p t := by
  rw [splitBy_append_separator s hc, splitBy_of_forall_not h]
  rfl

lemma not_mem_of_mem_splitBy {p : Char → Bool} {t w : Text} (hw : w ∈ splitBy p t) :
    ∀ c ∈ w, p c = false := by
  induction t generalizing w with
  | nil => simp [splitBy] at hw; simp [hw]
  | cons d t ih =>
    rw [splitBy] at hw
    split at hw
    · rcases List.mem_cons.1 hw with rfl | hw
      · simp
      · exact ih hw
    · rename_i hd
      cases hs : splitBy p t with
      | nil => exact absurd hs (splitBy_ne_nil p t)
      | cons v vs =>
        rw [hs] at hw
        simp only [List.mem_cons] at hw
        rcases hw with rfl | hw
        · intro c hc
          rcases List.mem_cons.1 hc with rfl | hc
          · simpa using hd
          · exact ih (by simp [hs]) c hc
        · exact ih (by simp [hs, hw])

lemma newline_not_mem_pieces {t w : Text} (hw : w ∈ pieces t) : '\n' ∉ w := fun h => by
  have := not_mem_of_mem_splitBy hw _ h
  simp at this

/-- Lines that hold no break are the pieces of their joined text. -/
lemma pieces_joinLines {ls : List Text} (hne : ls ≠ []) (h : ∀ l ∈ ls, '\n' ∉ l) :
    pieces (joinLines ls) = ls := by
  have hb : ∀ {l : Text}, '\n' ∉ l → ∀ c ∈ l, (c == '\n') = false := by
    intro l hl c hc
    simp only [beq_eq_false_iff_ne, ne_eq]
    rintro rfl
    exact hl hc
  induction ls with
  | nil => exact absurd rfl hne
  | cons l ls ih =>
    have hl := hb (h l (by simp))
    cases ls with
    | nil => exact splitBy_of_forall_not hl
    | cons l' ls' =>
      rw [joinLines_cons (by simp), pieces, splitBy_append_cons hl (by simp)]
      exact congrArg (l :: ·) (ih (by simp) fun m hm => h m (by simp [hm]))

/-- The last line stands behind a break. -/
lemma joinLines_concat {ls : List Text} (hne : ls ≠ []) (l : Text) :
    joinLines (ls ++ [l]) = joinLines ls ++ '\n' :: l := by
  induction ls with
  | nil => exact absurd rfl hne
  | cons m ls ih =>
    cases ls with
    | nil => rfl
    | cons m' ls' =>
      have htail : m' :: ls' ≠ [] := by simp
      rw [List.cons_append, joinLines_cons (by simp), joinLines_cons htail, ih htail,
        List.append_assoc, List.cons_append]

/-- A break behind joined lines is an empty line below them. -/
lemma joinLines_append_newline {ls : List Text} (hne : ls ≠ []) :
    joinLines ls ++ ['\n'] = joinLines (ls ++ [[]]) :=
  (joinLines_concat hne []).symm

lemma isInfix_joinLines {ls : List Text} {l : Text} (h : l ∈ ls) : l <:+: joinLines ls := by
  induction ls with
  | nil => simp at h
  | cons m ls ih =>
    cases ls with
    | nil =>
      obtain rfl := List.mem_singleton.1 h
      exact List.infix_rfl
    | cons m' ls' =>
      rw [joinLines_cons (by simp)]
      rcases List.mem_cons.1 h with rfl | h
      · exact (List.prefix_append l _).isInfix
      · exact (ih h).trans ((List.suffix_cons '\n' _).trans (List.suffix_append m _)).isInfix

lemma isInfix_of_mem_pieces {t w : Text} (h : w ∈ pieces t) : w <:+: t := by
  have hin := isInfix_joinLines h
  rwa [joinLines_pieces] at hin

/-- The last piece is the end of the text. -/
lemma isSuffix_of_getLast?_pieces {t w : Text} (h : (pieces t).getLast? = some w) : w <:+ t := by
  have hjoin : ∀ ls : List Text, ls.getLast? = some w → w <:+ joinLines ls := by
    intro ls hls
    induction ls with
    | nil => simp at hls
    | cons m ls ih =>
      cases ls with
      | nil =>
        obtain rfl : m = w := by simpa using hls
        exact List.suffix_rfl
      | cons m' ls' =>
        have htail := ih (by simpa using hls)
        rw [joinLines_cons (by simp)]
        exact htail.trans ((List.suffix_cons '\n' _).trans (List.suffix_append m _))
  have hsuf := hjoin _ h
  rwa [joinLines_pieces] at hsuf

/-- Every line but the last stands before a break in the joined text. -/
lemma infix_joinLines {ls : List Text} {l : Text} (h : l ∈ ls.dropLast) :
    l ++ ['\n'] <:+: joinLines ls := by
  induction ls with
  | nil => simp at h
  | cons m ls ih =>
    cases ls with
    | nil => simp at h
    | cons m' ls' =>
      rw [joinLines_cons (by simp)]
      simp only [List.dropLast_cons_cons, List.mem_cons] at h
      rcases h with rfl | h
      · exact ⟨[], joinLines (m' :: ls'), by simp⟩
      · obtain ⟨u, v, he⟩ := ih h
        exact ⟨m ++ '\n' :: u, v, by simp [← he]⟩

/-- A piece stands before a break or ends the text. -/
lemma exists_of_mem_pieces {t l : Text} (h : l ∈ pieces t) :
    ∃ u v, t = u ++ (l ++ v) ∧ (v = [] ∨ v.head? = some '\n') := by
  have hne : pieces t ≠ [] := splitBy_ne_nil _ t
  rw [← List.dropLast_append_getLast hne] at h
  rcases List.mem_append.1 h with h | h
  · obtain ⟨u, v, he⟩ := infix_joinLines h
    rw [joinLines_pieces] at he
    exact ⟨u, '\n' :: v, by simp [← he], .inr rfl⟩
  · have hlast : (pieces t).getLast? = some l := by
      rw [List.mem_singleton.1 h]
      exact List.getLast?_eq_some_getLast hne
    obtain ⟨u, he⟩ := isSuffix_of_getLast?_pieces hlast
    exact ⟨u, [], by simp [← he], .inl rfl⟩

/-- Only a carriage return at the end is dropped, and only one. -/
lemma dropReturn_eq (l : Text) :
    (dropReturn l = l ∧ l.getLast? ≠ some '\r') ∨ l = dropReturn l ++ ['\r'] := by
  induction l with
  | nil => exact .inl ⟨rfl, by simp⟩
  | cons c l ih =>
    cases l with
    | nil =>
      by_cases hc : c = '\r'
      · subst hc
        exact .inr rfl
      · refine .inl ⟨?_, by simpa using hc⟩
        rw [dropReturn]
        · rfl
        · simpa using hc
    | cons d l' =>
      have hstep : dropReturn (c :: d :: l') = c :: dropReturn (d :: l') := by
        rw [dropReturn]; simp
      rw [hstep]
      rcases ih with ⟨he, hl⟩ | he
      · exact .inl ⟨by rw [he], by simpa using hl⟩
      · refine .inr ?_
        rw [List.cons_append, ← he]

lemma dropReturn_of_getLast? {l : Text} (h : l.getLast? ≠ some '\r') : dropReturn l = l := by
  rcases dropReturn_eq l with ⟨he, -⟩ | he
  · exact he
  · rw [he] at h
    simp at h

lemma dropReturn_isPrefix (l : Text) : dropReturn l <+: l := by
  rcases dropReturn_eq l with ⟨he, -⟩ | he
  · exact he.symm ▸ List.prefix_rfl
  · exact ⟨['\r'], he.symm⟩

/-- Joined lines are read back as they were. -/
theorem lines_joinLines {ls : List Text} (hn : ∀ l ∈ ls, '\n' ∉ l)
    (hr : ∀ l ∈ ls.dropLast, l.getLast? ≠ some '\r') (hl : ls.getLast? ≠ some []) :
    lines (joinLines ls) = ls := by
  have hid : linesOfPieces ls = ls := by
    clear hn
    induction ls with
    | nil => rfl
    | cons l ls ih =>
      cases ls with
      | nil =>
        have hne : l ≠ [] := by simpa using hl
        simp [linesOfPieces, hne]
      | cons l' ls' =>
        simp only [List.dropLast_cons_cons, List.mem_cons, forall_eq_or_imp] at hr
        rw [linesOfPieces, dropReturn_of_getLast? hr.1, ih hr.2 (by simpa using hl)]
        simp
  by_cases hne : ls = []
  · subst hne
    rfl
  · rw [lines, pieces_joinLines hne hn, hid]

/-- Lines that are joined behind a text and a space are read back with what stands in front. -/
lemma lines_joinLines_behind {w : Text} (hw : '\n' ∉ w) {ls : List Text}
    (hn : ∀ l ∈ ls, '\n' ∉ l) (hr : ∀ l ∈ ls, '\r' ∉ l) :
    lines (joinLines (ls.map (w ++ ' ' :: ·))) = ls.map (w ++ ' ' :: ·) := by
  refine lines_joinLines ?_ ?_ ?_
  · intro l' hl'
    obtain ⟨l, hl, rfl⟩ := List.mem_map.1 hl'
    have hnl := hn l hl
    simp [hw, hnl]
  · intro l' hl' hlast
    obtain ⟨l, hl, rfl⟩ := List.mem_map.1 (List.dropLast_subset _ hl')
    have hrl : '\r' ∉ ' ' :: l := by simpa using hr l hl
    rw [List.getLast?_append_of_ne_nil _ (by simp)] at hlast
    exact hrl (List.mem_of_getLast? hlast)
  · intro hlast
    obtain ⟨l, -, hnil⟩ := List.mem_map.1 (List.mem_of_getLast? hlast)
    simp at hnil

/-- Pieces that others follow were all ended by a break. -/
lemma linesOfPieces_append (ps : List Text) {qs : List Text} (hq : qs ≠ []) :
    linesOfPieces (ps ++ qs) = ps.map dropReturn ++ linesOfPieces qs := by
  induction ps with
  | nil => rfl
  | cons p ps ih =>
    have hne : ps ++ qs ≠ [] := by simp [hq]
    rw [List.cons_append, linesOfPieces, ih, List.map_cons, List.cons_append]
    exact hne

/-- A break ends every line before it. -/
lemma lines_append_newline_cons (s t : Text) :
    lines (s ++ '\n' :: t) = (pieces s).map dropReturn ++ lines t := by
  have hpieces : pieces (s ++ '\n' :: t) = pieces s ++ pieces t :=
    splitBy_append_separator s (by simp) t
  have hne : pieces t ≠ [] := splitBy_ne_nil _ t
  rw [lines, hpieces, linesOfPieces_append _ hne, ← lines]

/-- Behind a break the lines of a text begin afresh. -/
theorem lines_append {s : Text} (h : s.getLast? = some '\n') (t : Text) :
    lines (s ++ t) = lines s ++ lines t := by
  obtain ⟨u, rfl⟩ := List.getLast?_eq_some_iff.1 h
  have hnil : lines [] = [] := rfl
  rw [List.append_assoc, List.singleton_append, lines_append_newline_cons,
    lines_append_newline_cons, hnil, List.append_nil]

/-- A text is nothing, a line that no break ends, or a line, its break and a text behind. -/
@[elab_as_elim]
theorem lineInduction {P : Text → Prop} (nil : P [])
    (last : ∀ l, l ≠ [] → '\n' ∉ l → P l) (line : ∀ l t, '\n' ∉ l → P t → P (l ++ '\n' :: t))
    (t : Text) : P t := by
  induction hn : t.length using Nat.strongRecOn generalizing t with
  | _ n ih =>
    by_cases hbreak : '\n' ∈ t
    · obtain ⟨l, u, rfl, hl⟩ := List.eq_append_cons_of_mem hbreak
      have hshort : u.length < n := by
        rw [← hn, List.length_append, List.length_cons]
        omega
      exact line l u hl (ih u.length hshort u rfl)
    · by_cases hne : t = []
      · exact hne ▸ nil
      · exact last t hne hbreak

section
variable {l : Text} (hl : '\n' ∉ l)
include hl

lemma splitInclusive_append_newline_cons (t : Text) :
    splitInclusive (l ++ '\n' :: t) = (l ++ ['\n']) :: splitInclusive t := by
  induction l with
  | nil => rfl
  | cons c l ih =>
    obtain ⟨hc, hl⟩ := not_or.1 (List.mem_cons.not.1 hl)
    rw [List.cons_append, splitInclusive, if_neg (Ne.symm hc), ih hl]
    rfl

lemma splitInclusive_of_not_mem (hne : l ≠ []) : splitInclusive l = [l] := by
  induction l with
  | nil => exact absurd rfl hne
  | cons c l ih =>
    obtain ⟨hc, hl⟩ := not_or.1 (List.mem_cons.not.1 hl)
    rw [splitInclusive, if_neg (Ne.symm hc)]
    by_cases hnil : l = []
    · rw [hnil]
      rfl
    · rw [ih hl hnil]

lemma lines_of_not_mem (hne : l ≠ []) : lines l = [l] :=
  @lines_joinLines [l] (by simpa using hl) (by simp) (by simpa using hne)

lemma lines_newline_cons (t : Text) : lines (l ++ '\n' :: t) = dropReturn l :: lines t := by
  have hpieces : pieces l = [l] := @pieces_joinLines [l] (by simp) (by simpa using hl)
  rw [lines_append_newline_cons, hpieces]
  rfl

end

lemma dropReturn_concat (l : Text) : dropReturn (l ++ ['\r']) = l := by
  rcases dropReturn_eq (l ++ ['\r']) with ⟨-, hlast⟩ | he
  · simp at hlast
  · exact (List.append_cancel_right he).symm

lemma dropReturn_append {w : Text} (hw : w.getLast? ≠ some '\r') (l : Text) :
    dropReturn (w ++ l) = w ++ dropReturn l := by
  rcases dropReturn_eq l with ⟨he, hlast⟩ | he
  · rw [he, dropReturn_of_getLast?]
    rw [List.getLast?_append]
    cases hl : l.getLast? with
    | none => simpa [hl] using hw
    | some c => simpa [hl] using hlast
  · conv_lhs => rw [he, ← List.append_assoc, dropReturn_concat]

/-- A line is a piece, or what is left of a piece without its carriage return. -/
lemma mem_linesOfPieces {ps : List Text} {l : Text} (h : l ∈ linesOfPieces ps) :
    ∃ p ∈ ps, l <+: p := by
  induction ps with
  | nil => simp [linesOfPieces] at h
  | cons p ps ih =>
    cases ps with
    | nil =>
      simp only [linesOfPieces] at h
      split at h
      · simp at h
      · exact ⟨p, by simp, by simp_all⟩
    | cons p' ps' =>
      rw [linesOfPieces] at h
      · rcases List.mem_cons.1 h with rfl | h
        · exact ⟨p, by simp, dropReturn_isPrefix p⟩
        · obtain ⟨q, hq, hl⟩ := ih h
          exact ⟨q, by simp_all, hl⟩
      · simp

lemma subset_of_mem_lines {t l : Text} (h : l ∈ lines t) : l ⊆ t := by
  obtain ⟨p, hp, hl⟩ := mem_linesOfPieces h
  exact (hl.isInfix.trans (isInfix_of_mem_pieces hp)).subset

theorem newline_not_mem_lines {t l : Text} (h : l ∈ lines t) : '\n' ∉ l := by
  obtain ⟨p, hp, hl⟩ := mem_linesOfPieces h
  exact fun hn => newline_not_mem_pieces hp (hl.subset hn)

lemma mem_dropLast_linesOfPieces {ps : List Text} {l : Text}
    (h : l ∈ (linesOfPieces ps).dropLast) : ∃ p ∈ ps.dropLast, l = dropReturn p := by
  induction ps with
  | nil => simp [linesOfPieces] at h
  | cons p ps ih =>
    cases ps with
    | nil =>
      simp only [linesOfPieces] at h
      split at h <;> simp at h
    | cons p' ps' =>
      rw [linesOfPieces] at h
      · rw [List.dropLast_cons_cons]
        cases hs : linesOfPieces (p' :: ps') with
        | nil => simp [hs] at h
        | cons m ms =>
          rw [hs, List.dropLast_cons_cons] at h
          rcases List.mem_cons.1 h with rfl | h
          · exact ⟨p, by simp, rfl⟩
          · obtain ⟨q, hq, hl⟩ := ih (by rw [hs]; exact h)
            exact ⟨q, by simp [hq], hl⟩
      · simp

/-- Only the last line may end in a carriage return when no break has two before it. -/
theorem getLast?_of_mem_dropLast_lines {t l : Text} (ht : ¬ ['\r', '\r', '\n'] <:+: t)
    (h : l ∈ (lines t).dropLast) : l.getLast? ≠ some '\r' := by
  obtain ⟨p, hp, rfl⟩ := mem_dropLast_linesOfPieces h
  intro hl
  obtain ⟨u, hu⟩ := List.getLast?_eq_some_iff.1 hl
  have hpr : p = u ++ ['\r', '\r'] := by
    rcases dropReturn_eq p with ⟨he, hne⟩ | he
    · rw [he] at hl
      exact absurd hl hne
    · rw [he, hu, List.append_assoc]
      rfl
  have hi := infix_joinLines hp
  rw [joinLines_pieces] at hi
  refine ht (List.IsInfix.trans ⟨u, [], ?_⟩ hi)
  simp [hpr]

/-- The line `l'` can stand in the place of `l`: it is not empty, and it has a line break or
a carriage return at its end only if `l` has. -/
structure Replaces (l l' : Text) : Prop where
  nonempty : l' ≠ []
  newline : '\n' ∉ l → '\n' ∉ l'
  ending : l'.getLast? = some '\r' → l.getLast? = some '\r'

lemma Replaces.self {l : Text} (h : l ≠ []) : Replaces l l := ⟨h, id, id⟩

lemma exists_of_forall₂ {α β : Type} {R : α → β → Prop} {as : List α} {bs : List β}
    (h : List.Forall₂ R as bs) {b : β} (hb : b ∈ bs) : ∃ a ∈ as, R a b := by
  induction h with
  | nil => simp at hb
  | @cons a b' as bs hab _ ih =>
    rcases List.mem_cons.1 hb with rfl | hb
    · exact ⟨a, by simp, hab⟩
    · obtain ⟨c, hc, hcb⟩ := ih hb
      exact ⟨c, by simp [hc], hcb⟩

lemma forall₂_dropLast {α β : Type} {R : α → β → Prop} {as : List α} {bs : List β}
    (h : List.Forall₂ R as bs) : List.Forall₂ R as.dropLast bs.dropLast := by
  rw [List.dropLast_eq_take, List.dropLast_eq_take, h.length_eq]
  exact List.forall₂_take _ h

lemma mem_dropLast_append {α : Type} {pre xs rest : List α} {x : α} (h : x ∈ xs.dropLast) :
    x ∈ (pre ++ xs ++ rest).dropLast := by
  have hxs : xs ≠ [] := by
    rintro rfl
    simp at h
  by_cases hr : rest = []
  · rw [hr, List.append_nil, List.dropLast_append_of_ne_nil hxs]
    exact List.mem_append_right _ h
  · rw [List.dropLast_append_of_ne_nil hr]
    exact List.mem_append_left _ (List.mem_append_right _ (List.dropLast_subset xs h))

/-- Lines that replace neighbouring lines of a text are read back when they are joined. -/
theorem lines_joinLines_of_replaces {t : Text} {pre ls rest ls' : List Text}
    (ht : ¬ ['\r', '\r', '\n'] <:+: t) (hls : lines t = pre ++ ls ++ rest)
    (h : List.Forall₂ Replaces ls ls') : lines (joinLines ls') = ls' := by
  refine lines_joinLines ?_ ?_ ?_
  · intro l' hl'
    obtain ⟨l, hl, hrep⟩ := exists_of_forall₂ h hl'
    exact hrep.newline (newline_not_mem_lines (show l ∈ lines t by simp [hls, hl]))
  · intro l' hl' hr
    obtain ⟨l, hl, hrep⟩ := exists_of_forall₂ (forall₂_dropLast h) hl'
    refine getLast?_of_mem_dropLast_lines ht ?_ (hrep.ending hr)
    rw [hls]
    exact mem_dropLast_append hl
  · intro hlast
    obtain ⟨l, -, hrep⟩ := exists_of_forall₂ h (List.mem_of_getLast? hlast)
    exact hrep.nonempty rfl

end Exemplar.Text
