import Exemplar.Proofs.Text.Occurrence
import Exemplar.Proofs.Text.Position
import Exemplar.Proofs.Text.Trimming

/-!
# Carriage returns before line breaks

A carriage return before a line break is a part of the break to whoever reads lines. It is
left over where a text is cut between the two, and then it stands at the end of the last line.
A carriage return at the end of a line is blank and belongs to no marker; so it changes neither
what the line begins with nor what is left when it is trimmed.
-/
namespace Exemplar.Text

/-- The text with a carriage return in front of every line break. -/
def withReturns (t : Text) : Text :=
  t.flatMap fun c => if c = '\n' then ['\r', '\n'] else [c]

/-- The text without its carriage returns. -/
def unreturned (t : Text) : Text := t.filter (· != '\r')

/-- Carriage returns stand in front of line breaks only. -/
def Returning (t : Text) : Prop := ∀ u v, t = u ++ '\r' :: v → v.head? = some '\n'

lemma Returning.nil : Returning [] := by
  intro u v h
  simp at h

lemma Returning.cons {c : Char} {t : Text} (h : Returning t) (hc : c ≠ '\r') :
    Returning (c :: t) := by
  intro u v he
  cases u with
  | nil => exact absurd (List.cons.inj he).1 hc
  | cons d u => exact h u v (List.cons.inj he).2

lemma Returning.cons_break {t : Text} (h : Returning t) : Returning ('\r' :: '\n' :: t) := by
  intro u v he
  cases u with
  | nil =>
    obtain ⟨-, rfl⟩ := List.cons.inj he
    rfl
  | cons d u => exact h.cons (by decide) u v (List.cons.inj he).2

lemma Returning.suffix {s t : Text} (h : Returning (s ++ t)) : Returning t := by
  rintro u v rfl
  exact h (s ++ u) v (List.append_assoc s u ('\r' :: v)).symm

/-- A part of the text in front of something other than a line break. -/
lemma Returning.prefix {s t : Text} (h : Returning (s ++ t)) (ht : t.head? ≠ some '\n') :
    Returning s := by
  rintro u v rfl
  have hv := h u (v ++ t) (by simp)
  cases v with
  | nil => exact absurd hv ht
  | cons c v => exact hv

lemma returning_withReturns {t : Text} (h : '\r' ∉ t) : Returning (withReturns t) := by
  induction t with
  | nil => exact .nil
  | cons c t ih =>
    have ht := ih fun hm => h (List.mem_cons_of_mem c hm)
    have hcons : withReturns (c :: t) =
        (if c = '\n' then ['\r', '\n'] else [c]) ++ withReturns t := rfl
    rw [hcons]
    by_cases hc : c = '\n'
    · rw [if_pos hc]
      exact ht.cons_break
    · rw [if_neg hc]
      refine ht.cons ?_
      rintro rfl
      exact h (List.mem_cons_self ..)

@[simp] theorem unreturned_append (s t : Text) :
    unreturned (s ++ t) = unreturned s ++ unreturned t := List.filter_append s t

lemma return_not_mem_unreturned (t : Text) : '\r' ∉ unreturned t := by
  simp [unreturned]

lemma unreturned_subset (t : Text) : unreturned t ⊆ t :=
  fun _ hc => (List.mem_filter.1 hc).1

lemma unreturned_eq_self {t : Text} (h : '\r' ∉ t) : unreturned t = t := by
  refine List.filter_eq_self.2 fun c hc => ?_
  rw [bne_iff_ne]
  rintro rfl
  exact h hc

lemma unreturned_withReturns {t : Text} (h : '\r' ∉ t) : unreturned (withReturns t) = t := by
  induction t with
  | nil => rfl
  | cons c t ih =>
    have ht := ih fun hm => h (List.mem_cons_of_mem c hm)
    have hcons : withReturns (c :: t) =
        (if c = '\n' then ['\r', '\n'] else [c]) ++ withReturns t := rfl
    rw [hcons, unreturned_append, ht]
    by_cases hc : c = '\n'
    · rw [if_pos hc, hc]
      rfl
    · have hr : c ≠ '\r' := by
        rintro rfl
        exact h (List.mem_cons_self ..)
      rw [if_neg hc, unreturned_eq_self (by simpa using hr.symm)]
      rfl

/-- Carriage returns are blank. -/
@[simp] theorem allBlank_unreturned (t : Text) : allBlank (unreturned t) = allBlank t := by
  rw [Bool.eq_iff_iff, allBlank_iff, allBlank_iff]
  constructor
  · intro h c hc
    by_cases hr : c = '\r'
    · rw [hr]
      decide
    · exact h c (by simp [unreturned, hc, hr])
  · exact fun h c hc => h c (unreturned_subset t hc)

@[simp] theorem newlines_unreturned (t : Text) : newlines (unreturned t) = newlines t :=
  List.count_filter (by decide)

@[simp] theorem pieces_unreturned (t : Text) :
    pieces (unreturned t) = (pieces t).map unreturned := by
  induction t with
  | nil => rfl
  | cons c t ih =>
    obtain ⟨w, ws, hp⟩ := exists_pieces_eq_cons t
    rw [hp, List.map_cons] at ih
    have hcons : unreturned (c :: t) = unreturned [c] ++ unreturned t :=
      unreturned_append [c] t
    rw [hcons]
    by_cases hn : c = '\n'
    · subst hn
      have hsingle : unreturned ['\n'] = ['\n'] := by decide
      rw [hsingle, pieces_cons_newline, hp]
      show pieces ('\n' :: unreturned t) = _
      rw [pieces_cons_newline, ih]
      rfl
    · rw [pieces_cons_of_ne hn hp]
      by_cases hr : c = '\r'
      · subst hr
        exact ih
      · have hsingle : unreturned [c] = [c] := unreturned_eq_self (by simpa using Ne.symm hr)
        rw [hsingle]
        show pieces (c :: unreturned t) = _
        rw [pieces_cons_of_ne hn ih, List.map_cons]
        show _ = unreturned ([c] ++ w) :: _
        rw [unreturned_append, hsingle]
        rfl

@[simp] theorem lastLine_unreturned (t : Text) :
    lastLine (unreturned t) = unreturned (lastLine t) := by
  induction t using List.reverseRecOn with
  | nil => rfl
  | append_singleton t c ih =>
    rw [unreturned_append, lastLine_concat]
    by_cases hn : c = '\n'
    · subst hn
      have hsingle : unreturned ['\n'] = ['\n'] := by decide
      rw [hsingle, lastLine_concat, if_pos rfl, if_pos rfl]
      rfl
    · rw [if_neg hn, unreturned_append, ← ih]
      have hc : '\n' ∉ unreturned [c] := fun hm =>
        hn (List.mem_singleton.1 (unreturned_subset _ hm)).symm
      exact lastLine_append hc

/-- The line `l'` is `l`, perhaps with a carriage return at its end. -/
def Returned (l l' : Text) : Prop := '\r' ∉ l ∧ (l' = l ∨ l' = l ++ ['\r'])

/-- A part of a text without line breaks has a carriage return at most at its end. -/
lemma Returning.returned {t p : Text} (h : Returning t) (hp : p <:+: t) (hn : '\n' ∉ p) :
    Returned (unreturned p) p := by
  refine ⟨return_not_mem_unreturned p, ?_⟩
  by_cases hr : '\r' ∈ p
  · obtain ⟨a, b, rfl, ha⟩ := List.eq_append_cons_of_mem hr
    obtain ⟨x, y, rfl⟩ := hp
    have hhead : (b ++ y).head? = some '\n' := h (x ++ a) (b ++ y) (by simp)
    have hb : b = [] := by
      cases b with
      | nil => rfl
      | cons c b =>
        obtain rfl : c = '\n' := Option.some.inj hhead
        exact absurd (by simp) hn
    right
    rw [hb, unreturned_append, unreturned_eq_self ha]
    simp [unreturned]
  · exact .inl (unreturned_eq_self hr).symm

lemma Returned.drop {l l' : Text} (h : Returned l l') :
    dropReturn l' = l ∧ dropReturn l = l := by
  obtain ⟨hr, he⟩ := h
  have hl : l.getLast? ≠ some '\r' := fun hlast => hr (List.mem_of_getLast? hlast)
  have hself := dropReturn_of_getLast? hl
  refine ⟨?_, hself⟩
  rcases he with rfl | rfl
  · exact hself
  · rcases dropReturn_eq (l ++ ['\r']) with ⟨-, hne⟩ | he
    · simp at hne
    · exact (List.append_cancel_right he).symm

/-- A text without line breaks in which carriage returns stand before line breaks has none. -/
lemma Returning.return_not_mem {t : Text} (h : Returning t) (hn : '\n' ∉ t) : '\r' ∉ t := by
  intro hr
  obtain ⟨a, b, rfl⟩ := List.append_of_mem hr
  have hb := List.mem_of_head? (h a b rfl)
  exact hn (by simp [hb])

/-- What stands in the text without its carriage returns stands in the text, unless there is a
line break in it. -/
lemma Returning.exists_append {t u w v : Text} (h : Returning t) (hn : '\n' ∉ w)
    (he : unreturned t = u ++ w ++ v) :
    ∃ u' v', t = u' ++ w ++ v' ∧ unreturned u' = u ∧ unreturned v' = v := by
  obtain ⟨s, z, rfl, hs, hz⟩ := List.filter_eq_append_iff.1 he
  obtain ⟨x, y, rfl, hx, hy⟩ := List.filter_eq_append_iff.1 hs
  have hny : '\n' ∉ y := fun hm => hn (hy ▸ List.mem_filter.2 ⟨hm, by decide⟩)
  have hret := h.returned (p := y) ⟨x, z, rfl⟩ hny
  rw [show unreturned y = w from hy] at hret
  rcases hret.2 with rfl | rfl
  · exact ⟨x, z, rfl, hx, hz⟩
  · exact ⟨x, '\r' :: z, by simp, hx, hz⟩

/-- The first occurrence of a text stays the first one without the carriage returns. -/
lemma FirstOccurrence.unreturned {w t b a : Text} (h : FirstOccurrence w t b a)
    (ht : Returning t) (hn : '\n' ∉ w) (hr : '\r' ∉ w) :
    FirstOccurrence w (unreturned t) (unreturned b) (unreturned a) where
  spells := by
    conv_lhs => rw [h.spells]
    rw [unreturned_append, unreturned_append, unreturned_eq_self hr]
  earliest := by
    intro u v he
    obtain ⟨u', v', ht', rfl, -⟩ := ht.exists_append hn he
    have hle := h.earliest u' v' ht'
    have hb : b <+: t := ⟨w ++ a, by rw [h.spells, List.append_assoc]⟩
    have hu : u' <+: t := ⟨w ++ v', by rw [ht', List.append_assoc]⟩
    exact ((List.prefix_of_prefix_length_le hb hu hle).filter _).length_le

/-- The lines with a carriage return at the end of the last one. -/
def returnLast : List Text → List Text
  | [] => []
  | [l] => [l ++ ['\r']]
  | l :: ls => l :: returnLast ls

lemma returnLast_cons (l : Text) {ls : List Text} (h : ls ≠ []) :
    returnLast (l :: ls) = l :: returnLast ls := by
  cases ls with
  | nil => exact absurd rfl h
  | cons l' ls => rfl

/-- Carriage returns before line breaks are no part of the lines. Behind the last piece there
is no break, and its carriage return stays. -/
lemma linesOfPieces_returned {ps ps' : List Text} (h : List.Forall₂ Returned ps ps') :
    (ps.getLast? = ps'.getLast? → linesOfPieces ps' = linesOfPieces ps) ∧
      ((∀ p ∈ ps, p ≠ []) → linesOfPieces ps' = linesOfPieces ps ∨
        linesOfPieces ps' = returnLast (linesOfPieces ps)) := by
  induction h with
  | nil => exact ⟨fun _ => rfl, fun _ => .inl rfl⟩
  | @cons p p' ps ps' hp hps ih =>
    cases hps with
    | nil =>
      refine ⟨?_, fun hne => ?_⟩
      · intro hlast
        obtain rfl : p = p' := by simpa using hlast
        rfl
      · have hne : p ≠ [] := hne p (by simp)
        rcases hp.2 with rfl | rfl
        · exact .inl rfl
        · right
          simp [linesOfPieces, hne, returnLast]
    | @cons q q' qs qs' hq hqs =>
      obtain ⟨hsame, hreturn⟩ := ih
      have hdrop := hp.drop
      have hstep : linesOfPieces (p :: q :: qs) = p :: linesOfPieces (q :: qs) := by
        rw [linesOfPieces, hdrop.2]
        simp
      have hstep' : linesOfPieces (p' :: q' :: qs') = p :: linesOfPieces (q' :: qs') := by
        rw [linesOfPieces, hdrop.1]
        simp
      rw [hstep, hstep']
      refine ⟨fun hlast => ?_, fun hne => ?_⟩
      · rw [hsame (by simpa using hlast)]
      · have hq : q ≠ [] := hne q (by simp)
        have htail : linesOfPieces (q :: qs) ≠ [] := by
          cases qs with
          | nil => simp [linesOfPieces, hq]
          | cons r rs => simp [linesOfPieces]
        rcases hreturn fun r hr => hne r (List.mem_cons_of_mem p hr) with he | he
        · exact .inl (by rw [he])
        · exact .inr (by rw [he, returnLast_cons p htail])

/-- The last piece has no carriage return, since no line break follows. -/
lemma Returning.getLast?_pieces {t : Text} (h : Returning t) :
    (pieces (unreturned t)).getLast? = (pieces t).getLast? := by
  rw [pieces_unreturned, List.getLast?_map]
  cases hlast : (pieces t).getLast? with
  | none => rfl
  | some w =>
    obtain ⟨s, hs⟩ := isSuffix_of_getLast?_pieces hlast
    rw [← hs] at h
    have hw : '\r' ∉ w :=
      h.suffix.return_not_mem (newline_not_mem_pieces (List.mem_of_getLast? hlast))
    rw [Option.map_some, unreturned_eq_self hw]

/-- Every piece of a part of the text has a carriage return at most at its end. -/
lemma Returning.forall₂_pieces {t b : Text} (h : Returning t) (hb : b <:+: t) :
    List.Forall₂ Returned (pieces (unreturned b)) (pieces b) := by
  rw [pieces_unreturned, List.forall₂_map_left_iff, List.forall₂_same]
  exact fun l hl => h.returned ((isInfix_of_mem_pieces hl).trans hb) (newline_not_mem_pieces hl)

/-- A text is read in the same lines with carriage returns before its line breaks. -/
theorem Returning.lines_unreturned {t : Text} (h : Returning t) : lines (unreturned t) = lines t :=
  ((linesOfPieces_returned (h.forall₂_pieces List.infix_rfl)).1 h.getLast?_pieces).symm

section
variable {c : Char} {p : Text} (hp : c ∉ p)
include hp

/-- A character at the end of a text is not a part of what the text begins with. -/
lemma stripPrefix?_concat (t : Text) :
    stripPrefix? p (t ++ [c]) = (stripPrefix? p t).map (· ++ [c]) := by
  induction p generalizing t with
  | nil => rfl
  | cons a p ih =>
    have ha : a ≠ c := fun he => hp (by simp [he])
    cases t with
    | nil => simp [stripPrefix?, ha]
    | cons b t =>
      rw [List.cons_append, stripPrefix?, stripPrefix?]
      by_cases hb : a = b
      · rw [if_pos hb, if_pos hb]
        exact ih (fun hm => hp (List.mem_cons_of_mem a hm)) t
      · rw [if_neg hb, if_neg hb]
        rfl

lemma startsWith_concat (t : Text) : startsWith (t ++ [c]) p = startsWith t p := by
  rw [startsWith, startsWith, stripPrefix?_concat hp, Option.isSome_map]

lemma breakOn_concat (hne : p ≠ []) (t : Text) :
    breakOn p (t ++ [c]) = (breakOn p t).map fun found => (found.1, found.2 ++ [c]) := by
  induction t with
  | nil =>
    obtain ⟨a, q, rfl⟩ := List.exists_cons_of_ne_nil hne
    have ha : a ≠ c := fun he => hp (by simp [he])
    simp [breakOn, stripPrefix?, ha]
  | cons b t ih =>
    have hstrip : stripPrefix? p (b :: (t ++ [c])) = (stripPrefix? p (b :: t)).map (· ++ [c]) :=
      stripPrefix?_concat hp (b :: t)
    rw [List.cons_append, breakOn, breakOn, hstrip, ih]
    cases stripPrefix? p (b :: t) with
    | some r => rfl
    | none =>
      simp only [Option.map_none, Option.map_map]
      rfl

end

lemma trimStart_concat_return (t : Text) :
    trimStart (t ++ ['\r']) = if allBlank t then [] else trimStart t ++ ['\r'] := by
  by_cases hb : allBlank t = true
  · rw [if_pos hb, trimStart_append hb]
    rfl
  · rw [if_neg hb]
    have hne : ¬ (t.dropWhile isBlank).isEmpty = true := fun he =>
      hb (trimStart_eq_nil.1 (List.isEmpty_iff.1 he))
    show (t ++ ['\r']).dropWhile isBlank = _
    rw [List.dropWhile_append, if_neg hne]
    rfl

lemma trimEnd_concat_return (t : Text) : trimEnd (t ++ ['\r']) = trimEnd t :=
  trimEnd_append_allBlank t (by decide)

@[simp] theorem allBlank_concat_return (t : Text) : allBlank (t ++ ['\r']) = allBlank t := by
  unfold allBlank
  rw [List.all_append]
  exact Bool.and_true _

lemma indent_concat_return {t : Text} (hb : allBlank t = false) :
    indent (t ++ ['\r']) = indent t := by
  have htrim := trimStart_concat_return t
  rw [if_neg (by simp [hb])] at htrim
  have hparts : indent (t ++ ['\r']) ++ trimStart (t ++ ['\r']) =
      indent t ++ (trimStart t ++ ['\r']) := by
    rw [indent_append_trimStart, ← List.append_assoc, indent_append_trimStart]
  rw [htrim] at hparts
  exact List.append_cancel_right hparts

end Exemplar.Text
