import Exemplar.Text.Blank
import Mathlib.Data.List.DropRight

/-!
# Trimming

What trimming removes is blank, and what it leaves has no blank at that end. Trimming
therefore ignores blanks that are put in front of a text or behind it, and it stops at the
first text that is not blank.
-/
namespace Exemplar.Text

lemma allBlank_iff {t : Text} : allBlank t = true ↔ ∀ c ∈ t, isBlank c = true := by
  simp [allBlank]

@[simp] theorem allBlank_indent (t : Text) : allBlank (indent t) = true := by
  simp only [allBlank, indent, List.all_eq_true]
  exact fun c hc => List.mem_takeWhile_imp hc

/-- The text has no blank in front. -/
def NoBlankFirst (t : Text) : Prop := ∀ c ∈ t.head?, isBlank c = false

instance (t : Text) : Decidable (NoBlankFirst t) :=
  match t with
  | [] => isTrue (by simp [NoBlankFirst])
  | c :: _ => decidable_of_iff (isBlank c = false) (by simp [NoBlankFirst])

lemma noBlankFirst_trimStart (t : Text) : NoBlankFirst (trimStart t) := by
  intro c hc
  have h := List.head?_dropWhile_not isBlank t
  rw [Option.mem_def] at hc
  rw [show t.dropWhile isBlank = trimStart t from rfl, hc] at h
  simpa using h

lemma NoBlankFirst.of_append {s t : Text} (h : NoBlankFirst (s ++ t)) : NoBlankFirst s := by
  cases s with
  | nil => simp [NoBlankFirst]
  | cons c s => simpa [NoBlankFirst] using h

lemma trimStart_of_noBlankFirst {t : Text} (h : NoBlankFirst t) : trimStart t = t := by
  cases t with
  | nil => rfl
  | cons c t =>
    have hc : isBlank c = false := h c rfl
    simp [trimStart, hc]

lemma trimStart_eq_nil {t : Text} : trimStart t = [] ↔ allBlank t = true := by
  rw [trimStart, List.dropWhile_eq_nil_iff, allBlank_iff]

/-- Blanks in front of a text make no difference. -/
lemma trimStart_append {b : Text} (hb : allBlank b = true) (t : Text) :
    trimStart (b ++ t) = trimStart t :=
  List.dropWhile_append_of_pos (allBlank_iff.1 hb)

lemma dropEnd_eq_rdropWhile (p : Char → Bool) (t : Text) : dropEnd p t = t.rdropWhile p := by
  induction t using List.reverseRecOn with
  | nil => rfl
  | append_singleton t c ih =>
    rw [List.rdropWhile_concat]
    have hcons : ∀ s : Text, dropEnd p (s ++ [c]) = if p c then dropEnd p s else s ++ [c] := by
      intro s
      induction s with
      | nil => rfl
      | cons a s ihs =>
        rw [List.cons_append, dropEnd, ihs]
        by_cases hc : p c
        · simp only [hc, if_true]
          rfl
        · cases s <;> simp [hc]
    rw [hcons, ih]

lemma trimEnd_eq_rdropWhile (t : Text) : trimEnd t = t.rdropWhile isBlank :=
  dropEnd_eq_rdropWhile isBlank t

lemma trimEnd_isPrefix (t : Text) : trimEnd t <+: t := by
  rw [trimEnd_eq_rdropWhile]
  exact List.rdropWhile_prefix isBlank t

lemma trimEnd_eq_nil {t : Text} : trimEnd t = [] ↔ allBlank t = true := by
  rw [trimEnd_eq_rdropWhile, List.rdropWhile_eq_nil_iff, allBlank_iff]

/-- A trimmed text does not end in a blank. -/
lemma getLast?_trimEnd {t : Text} {c : Char} (h : (trimEnd t).getLast? = some c) :
    isBlank c = false := by
  rw [trimEnd_eq_rdropWhile] at h
  have hne : t.rdropWhile isBlank ≠ [] := fun he => by simp [he] at h
  have hl := List.rdropWhile_last_not isBlank t hne
  rw [List.getLast?_eq_some_getLast hne, Option.some.injEq] at h
  simpa [h] using hl

@[simp] theorem trimEnd_trimEnd (t : Text) : trimEnd (trimEnd t) = trimEnd t := by
  simp only [trimEnd_eq_rdropWhile]
  exact List.rdropWhile_idempotent isBlank t

/-- Trimming the end stops at a text that is not blank. -/
lemma trimEnd_append {s t : Text} (h : allBlank t = false) : trimEnd (s ++ t) = s ++ trimEnd t := by
  have hne : t.reverse.dropWhile isBlank ≠ [] := by
    intro he
    have : trimEnd t = [] := by rw [trimEnd_eq_rdropWhile, List.rdropWhile, he, List.reverse_nil]
    simp [trimEnd_eq_nil.1 this] at h
  simp only [trimEnd_eq_rdropWhile, List.rdropWhile, List.reverse_append, List.dropWhile_append,
    List.isEmpty_iff, if_neg hne, List.reverse_reverse]

/-- Blanks behind a text make no difference. -/
lemma trimEnd_append_allBlank (t : Text) {b : Text} (hb : allBlank b = true) :
    trimEnd (t ++ b) = trimEnd t := by
  rw [allBlank_iff] at hb
  simp only [trimEnd_eq_rdropWhile, List.rdropWhile, List.reverse_append]
  rw [List.dropWhile_append_of_pos fun c hc => hb c (List.mem_reverse.1 hc)]

end Exemplar.Text
