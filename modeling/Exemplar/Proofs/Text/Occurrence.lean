import Exemplar.Text.Search
import Mathlib.Data.List.Basic

/-!
# First occurrences

An occurrence of a text is a way to write the text around it. The search for a fixed text
stops at the first occurrence, and it fails only where there is none. What lies before the
first occurrence is therefore never longer than what lies before another one.
-/
namespace Exemplar.Text

/-- `needle` stands between `before` and `after` in `t`, and nowhere earlier. -/
structure FirstOccurrence (needle t before after : Text) : Prop where
  spells : t = before ++ needle ++ after
  earliest : ∀ u v, t = u ++ needle ++ v → before.length ≤ u.length

/-- A text begins with its needle or has all occurrences behind its first character. -/
lemma occurrence_cons {needle t u v : Text} {c : Char} (h : c :: t = u ++ needle ++ v) :
    needle <+: c :: t ∨ ∃ u', u = c :: u' ∧ t = u' ++ needle ++ v := by
  cases u with
  | nil => exact .inl ⟨v, by simpa using h.symm⟩
  | cons a u' =>
    simp only [List.cons_append, List.cons.injEq] at h
    exact .inr ⟨u', by rw [h.1], h.2⟩

lemma stripPrefix?_eq_none {p t : Text} : stripPrefix? p t = none ↔ ¬ p <+: t := by
  rw [Option.eq_none_iff_forall_ne_some]
  simp only [ne_eq, stripPrefix?_eq_some, List.IsPrefix, not_exists]
  exact forall_congr' fun r => by rw [eq_comm]

lemma firstOccurrence_append {needle t after : Text} (h : t = needle ++ after) :
    FirstOccurrence needle t [] after :=
  ⟨by simpa using h, fun _ _ _ => Nat.zero_le _⟩

/-- An occurrence behind a character at which the needle does not begin. -/
lemma FirstOccurrence.cons {needle t before after : Text} {c : Char}
    (h : FirstOccurrence needle t before after) (hc : ¬ needle <+: c :: t) :
    FirstOccurrence needle (c :: t) (c :: before) after where
  spells := by simp [h.spells]
  earliest := by
    intro u v he
    rcases occurrence_cons he with hp | ⟨u', rfl, ht⟩
    · exact absurd hp hc
    · have := h.earliest u' v ht
      simpa using this

lemma FirstOccurrence.unique {needle t before after before' after' : Text}
    (h : FirstOccurrence needle t before after) (h' : FirstOccurrence needle t before' after') :
    before = before' ∧ after = after' := by
  have hlen : before.length = before'.length :=
    Nat.le_antisymm (h.earliest _ _ h'.spells) (h'.earliest _ _ h.spells)
  have he : before ++ (needle ++ after) = before' ++ (needle ++ after') := by
    rw [← List.append_assoc, ← List.append_assoc, ← h.spells, ← h'.spells]
  obtain ⟨hb, ha⟩ := List.append_inj he hlen
  exact ⟨hb, List.append_cancel_left ha⟩

/-- What stands behind an occurrence plays no part in its being the first. -/
lemma FirstOccurrence.of_append {needle before after t : Text}
    (h : FirstOccurrence needle (before ++ needle ++ after ++ t) before (after ++ t)) :
    FirstOccurrence needle (before ++ needle ++ after) before after where
  spells := rfl
  earliest := by
    intro u v he
    refine h.earliest u (v ++ t) ?_
    rw [he, List.append_assoc (u ++ needle)]

/-- What stands before the first occurrence does not contain the needle. -/
lemma FirstOccurrence.not_isInfix {needle t before after : Text}
    (h : FirstOccurrence needle t before after) (hne : before ≠ []) : ¬ needle <:+: before := by
  rintro ⟨u, v, rfl⟩
  have hle := h.earliest u (v ++ needle ++ after) (by rw [h.spells]; simp)
  simp only [List.length_append] at hle
  -- only the empty text can occur so late, and it occurs at the beginning
  obtain rfl : needle = [] := List.length_eq_zero_iff.1 (by omega)
  have hzero := h.earliest [] t rfl
  exact hne (List.length_eq_zero_iff.1 (Nat.le_zero.1 hzero))

/-- The search gives up only on a text without the needle. -/
theorem breakOn_eq_none {needle t : Text} : breakOn needle t = none ↔ ¬ needle <:+: t := by
  induction t with
  | nil => simp [breakOn, stripPrefix?_eq_none]
  | cons c t ih =>
    cases hs : stripPrefix? needle (c :: t) with
    | some after =>
      have hp : needle <+: c :: t := ⟨after, (stripPrefix?_eq_some.1 hs).symm⟩
      simp [breakOn, hs, hp.isInfix]
    | none =>
      have hp := stripPrefix?_eq_none.1 hs
      simp [breakOn, hs, ih, List.infix_cons_iff, hp]

/-- What the search finds is the first occurrence. -/
theorem breakOn_eq_some {needle t before after : Text} :
    breakOn needle t = some (before, after) ↔ FirstOccurrence needle t before after := by
  have found : ∀ {b a : Text}, breakOn needle t = some (b, a) → FirstOccurrence needle t b a := by
    induction t with
    | nil =>
      intro b a h
      simp only [breakOn, Option.map_eq_some_iff, Prod.mk.injEq] at h
      obtain ⟨u, hu, rfl, rfl⟩ := h
      exact firstOccurrence_append (stripPrefix?_eq_some.1 hu)
    | cons c t ih =>
      intro b a h
      cases hs : stripPrefix? needle (c :: t) with
      | some r =>
        simp only [breakOn, hs, Option.some.injEq, Prod.mk.injEq] at h
        obtain ⟨rfl, rfl⟩ := h
        exact firstOccurrence_append (stripPrefix?_eq_some.1 hs)
      | none =>
        simp only [breakOn, hs, Option.map_eq_some_iff, Prod.mk.injEq, Prod.exists] at h
        obtain ⟨b', a', hb, rfl, rfl⟩ := h
        exact (ih hb).cons (stripPrefix?_eq_none.1 hs)
  refine ⟨found, fun h => ?_⟩
  cases hb : breakOn needle t with
  | none => exact absurd ⟨before, after, h.spells.symm⟩ (breakOn_eq_none.1 hb)
  | some found' =>
    obtain ⟨b, a⟩ := found'
    obtain ⟨rfl, rfl⟩ := h.unique (found hb)
    rfl

/-- A text that contains the needle has a first occurrence, no later than a known one. -/
theorem exists_firstOccurrence (needle u v : Text) :
    ∃ before e after, u = before ++ e ∧ needle ++ after = e ++ needle ++ v ∧
      FirstOccurrence needle (u ++ needle ++ v) before after := by
  cases hb : breakOn needle (u ++ needle ++ v) with
  | none => exact absurd ⟨u, v, rfl⟩ (breakOn_eq_none.1 hb)
  | some found =>
    obtain ⟨before, after⟩ := found
    have hf := breakOn_eq_some.1 hb
    have hle := hf.earliest u v rfl
    have hpre : before <+: u :=
      List.prefix_of_prefix_length_le ⟨needle ++ after, by rw [← List.append_assoc, ← hf.spells]⟩
        ⟨needle ++ v, by rw [List.append_assoc]⟩ hle
    obtain ⟨e, rfl⟩ := hpre
    refine ⟨before, e, after, rfl, ?_, hf⟩
    have := hf.spells
    simp only [List.append_assoc, List.append_cancel_left_eq] at this
    rw [← this, List.append_assoc]

variable {needle t before after : Text}

/-- Each occurrence is replaced where the search finds it. -/
lemma replaceAll_of_breakOn (hn : needle ≠ []) (h : breakOn needle t = some (before, after))
    (new : Text) : replaceAll needle new t = before ++ new ++ replaceAll needle new after := by
  rw [replaceAll]
  split <;> simp_all

lemma replaceAll_of_none (h : breakOn needle t = none) (new : Text) :
    replaceAll needle new t = t := by
  rw [replaceAll]
  split <;> simp_all

end Exemplar.Text
