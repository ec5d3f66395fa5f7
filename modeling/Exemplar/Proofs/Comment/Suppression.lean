import Exemplar.Comment.Block
import Exemplar.Proofs.Comment.Reading
import Mathlib.Algebra.Ring.Parity

/-!
# Suppressed regions

The region that is open behind some comments depends only on how many of them switch: it is
open when their number is odd, and then the last of them opened it. So the blocks of a text
are its candidates with an even number of switches before them. The comments themselves are
found without the regions and without knowing which of them are searched.
-/
namespace Exemplar.Comment
open Text

namespace Region

lemma afterAll_concat (region : Region) (cs : List Span) (c : Span) :
    afterAll region (cs ++ [c]) = (afterAll region cs).after c := by
  simp [afterAll]

/-- Where the number of switches is odd there is a last one. -/
lemma exists_last_switch {cs : List Span} (h : ¬ Even (cs.countP Span.isSwitch)) :
    ∃ c, (cs.filter Span.isSwitch).getLast? = some c := by
  have hne : cs.filter Span.isSwitch ≠ [] := by
    intro hnil
    rw [List.countP_eq_length_filter, hnil] at h
    exact h Even.zero
  exact ⟨_, List.getLast?_eq_some_getLast hne⟩

/-- The region behind some comments is that of the last one that switches, if their number
is odd. -/
theorem afterAll_none (cs : List Span) :
    afterAll none cs =
      if Even (cs.countP Span.isSwitch) then none
      else (cs.filter Span.isSwitch).getLast?.map Span.line := by
  induction cs using List.reverseRecOn with
  | nil => rfl
  | append_singleton cs c ih =>
    rw [afterAll_concat, ih]
    by_cases hc : c.isSwitch = true
    · by_cases he : Even (cs.countP Span.isSwitch)
      · simp [after, hc, he, Nat.even_add_one]
      · obtain ⟨b, hb⟩ := exists_last_switch he
        simp [after, hc, he, Nat.even_add_one, hb]
    · simp [after, hc]

lemma afterAll_none_eq_none {cs : List Span} :
    afterAll none cs = none ↔ Even (cs.countP Span.isSwitch) := by
  rw [afterAll_none]
  by_cases he : Even (cs.countP Span.isSwitch)
  · simp [he]
  · obtain ⟨b, hb⟩ := exists_last_switch he
    simp [he, hb]

end Region

/-- The candidates before which an even number of comments switch suppression. -/
def unsuppressed (rule : Rule) (cs : List Span) : List Span :=
  (cs.zipIdx.filter fun c =>
    c.1.isCandidate rule && decide (Even ((cs.take c.2).countP Span.isSwitch))).map Prod.fst

lemma unsuppressed_concat (rule : Rule) (cs : List Span) (c : Span) :
    unsuppressed rule (cs ++ [c]) = unsuppressed rule cs ++
      if c.isCandidate rule = true ∧ Even (cs.countP Span.isSwitch) then [c] else [] := by
  have hold : ∀ e ∈ cs.zipIdx, ((cs ++ [c]).take e.2).countP Span.isSwitch =
      (cs.take e.2).countP Span.isSwitch := by
    intro e he
    have hlt := List.snd_lt_of_mem_zipIdx he
    rw [List.take_append_of_le_length (by omega)]
  rw [unsuppressed, List.zipIdx_append, List.filter_append, List.map_append, unsuppressed]
  congr 1
  · congr 1
    refine List.filter_congr fun e he => ?_
    rw [hold e he]
  · by_cases hc : c.isCandidate rule = true <;>
      by_cases he : Even (cs.countP Span.isSwitch) <;> simp [hc, he]

lemma selected_append (rule : Rule) (region : Region) (cs ds : List Span) :
    selected rule region (cs ++ ds) =
      selected rule region cs ++ selected rule (region.afterAll cs) ds := by
  induction cs generalizing region with
  | nil => rfl
  | cons c cs ih =>
    rw [List.cons_append, selected, selected, ih]
    split <;> rfl

/-- The regions leave out exactly the candidates behind an odd number of switches. -/
theorem selected_none (rule : Rule) (cs : List Span) :
    selected rule none cs = unsuppressed rule cs := by
  induction cs using List.reverseRecOn with
  | nil => rfl
  | append_singleton cs c ih =>
    rw [selected_append, unsuppressed_concat, ih]
    congr 1
    simp only [selected, ← Region.afterAll_none_eq_none]

/-- What is searched plays no part in finding comments. -/
lemma comments_withSearchable {rule : Rule} {before t : Text} {cs : List Span}
    (h : Comments rule before t cs) (searchable : Bool) :
    Comments (rule.withSearchable searchable) before t cs := by
  induction h with
  | none h => exact .none h
  | next first reads spells _ ih => exact .next first reads spells ih

/-- A text has one list of comments, whatever is searched and whatever is suppressed. The
blocks are those of them that are candidates and have an even number of switches before them.
An unclosed region is reported when the number of all switches is odd, on the line of the last
one. -/
theorem extract_unsuppressed {rule : Rule} (hrule : rule.OneLine) (hpart : rule.wholeFile = false)
    (t : Text) :
    ∃ cs, (∀ cs', Comments rule [] t cs' ↔ cs' = cs) ∧
      (∀ searchable cs', Comments (rule.withSearchable searchable) [] t cs' ↔ cs' = cs) ∧
      (extract rule t).blocks = (unsuppressed rule cs).map (Span.toBlock rule) ∧
      ((∃ l, .unclosedRegion l ∈ (extract rule t).problems) ↔
        Odd (cs.countP Span.isSwitch)) ∧
      ∀ l, .unclosedRegion l ∈ (extract rule t).problems →
        (cs.filter Span.isSwitch).getLast?.map Span.line = some l := by
  have hcs : Comments rule [] t (scan rule t) := comments_scanFrom hrule [] t
  have hproblems : ∀ l, .unclosedRegion l ∈ (extract rule t).problems ↔
      Region.afterAll none (scan rule t) = some l := by
    intro l
    have hno : ∀ c : Span, c.unterminated? ≠ some (.unclosedRegion l) := by
      intro c
      rw [Span.unterminated?]
      split <;> simp
    simp [extract, hpart, hno]
  refine ⟨scan rule t, fun cs' => ⟨fun h => h.unique hcs, fun h => h ▸ hcs⟩, ?_, ?_, ?_, ?_⟩
  · intro searchable cs'
    have hcs' := comments_withSearchable hcs searchable
    exact ⟨fun h => h.unique hcs', fun h => h ▸ hcs'⟩
  · simp [extract, hpart, selected_none]
  · simp only [hproblems, ← Nat.not_even_iff_odd, ← Region.afterAll_none_eq_none]
    rw [← ne_eq, Option.ne_none_iff_exists']
  · intro l hl
    have he := (hproblems l).1 hl
    have hodd : ¬ Even ((scan rule t).countP Span.isSwitch) := by
      rw [← Region.afterAll_none_eq_none, he]
      simp
    rw [Region.afterAll_none, if_neg hodd] at he
    exact he

/-- Neither the line comment between two switches nor the one behind the third is a block. -/
theorem extract_unsuppressed_three_switches :
    ∃ rule t cs, rule = Rule.slash.withSearchable true ∧ rule.OneLine ∧ rule.wholeFile = false ∧
      t = "/* */\n// $ a\n/**/\n/* $ b\n */ // c\n/* */\n// $ d".toList ∧
      Comments rule [] t cs ∧ cs.map Span.line = [1, 2, 3, 4, 5, 6, 7] ∧
      (unsuppressed rule cs).map Span.line = [4, 5] ∧
      (extract rule t).blocks = (unsuppressed rule cs).map (Span.toBlock rule) ∧
      ∃ l, .unclosedRegion l ∈ (extract rule t).problems := by
  let rule := Rule.slash.withSearchable true
  let t := "/* */\n// $ a\n/**/\n/* $ b\n */ // c\n/* */\n// $ d".toList
  have hrule : rule.OneLine := by decide
  obtain ⟨cs, hcs, -, hblocks, hodd, -⟩ := extract_unsuppressed hrule rfl t
  have hscan : scan rule t = cs := (hcs _).1 (comments_scanFrom hrule [] t)
  subst hscan
  refine ⟨rule, t, _, rfl, hrule, rfl, rfl, (hcs _).2 rfl, ?_, ?_, hblocks, hodd.2 ?_⟩ <;>
    decide +kernel

end Exemplar.Comment
