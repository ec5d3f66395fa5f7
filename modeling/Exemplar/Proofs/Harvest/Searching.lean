import Exemplar.Harvest
import Exemplar.Proofs.Comment.Lines
import Mathlib.Data.List.Flatten

/-!
# Searching line comments

Which comments a text has does not depend on whether its line comments are searched. Runs of
line comments switch no region and are never reported, so searching them adds blocks of their
own and changes nothing else: the other blocks, their places and the problems stay. A file can
only gain examples.
-/
namespace Exemplar.Comment
open Text

namespace Span

def isBlock (c : Span) : Bool :=
  match c.form with
  | .block _ _ => true
  | .run _ => false

lemma isCandidate_unsearched (rule : Rule) (c : Span) :
    c.isCandidate (rule.withSearchable false) =
      (c.isBlock && c.isCandidate (rule.withSearchable true)) := by
  unfold isCandidate isBlock
  cases c.form <;> rfl

end Span

/-- Only a block comment has its body behind a delimiter. -/
def Block.isDelimited (b : Block) : Bool := decide (b.start < b.bodyStart)

section
variable (rule : Rule) (searchable : Bool)

/-- What is searched plays no part in reading the comments of a text. -/
lemma scanFrom_withSearchable (m : Mark) (t : Text) :
    scanFrom (rule.withSearchable searchable) m t = scanFrom rule m t := by
  induction hl : t.length using Nat.strong_induction_on generalizing m t with
  | _ n ih =>
    have hstep : step (rule.withSearchable searchable) m t = step rule m t := rfl
    rw [scanFrom, scanFrom, hstep]
    cases step rule m t with
    | none => rfl
    | some s =>
      by_cases hlt : s.rest.length < t.length
      · simp only [if_pos hlt, ih _ (hl ▸ hlt) s.mark s.rest rfl]
      · simp only [if_neg hlt]

lemma scan_withSearchable (t : Text) : scan (rule.withSearchable searchable) t = scan rule t :=
  scanFrom_withSearchable rule searchable Mark.start t

lemma extract_withSearchable (hpart : rule.wholeFile = false) (t : Text) :
    extract (rule.withSearchable searchable) t =
      ⟨(selected (rule.withSearchable searchable) none (scan rule t)).map (Span.toBlock rule),
       (scan rule t).filterMap Span.unterminated? ++
         ((Region.afterAll none (scan rule t)).map Problem.unclosedRegion).toList,
       recordsFrom none (scan rule t)⟩ := by
  have hpart' : (rule.withSearchable searchable).wholeFile = false := hpart
  rw [extract_scanned hpart', scan_withSearchable]
  rfl

end

/-- The comments selected without searching line comments are the block comments among those
selected with it. -/
lemma selected_unsearched (rule : Rule) (region : Region) (cs : List Span) :
    selected (rule.withSearchable false) region cs =
      (selected (rule.withSearchable true) region cs).filter Span.isBlock := by
  induction cs generalizing region with
  | nil => rfl
  | cons c cs ih =>
    rw [selected, selected, ih, c.isCandidate_unsearched rule]
    by_cases hon : c.isCandidate (rule.withSearchable true) = true ∧ region = none
    · cases hb : c.isBlock <;> simp [hon, hb]
    · have hoff : ¬ ((c.isBlock && c.isCandidate (rule.withSearchable true)) = true ∧
          region = none) := fun h => hon ⟨(Bool.and_eq_true_iff.1 h.1).2, h.2⟩
      rw [if_neg hoff, if_neg hon]

lemma Span.Stands.isDelimited_toBlock {rule : Rule} {t u v : Text} {c : Span}
    (h : c.Stands rule t u v) : (c.toBlock rule).isDelimited = c.isBlock := by
  have hstart : (c.toBlock rule).isDelimited = decide (c.start < c.start + byteSize c.opening) := by
    rw [← c.bodyStart_eq]
    rfl
  rw [hstart]
  cases hc : c.form with
  | block form closed =>
    have hne := (h.block form closed hc).2.1
    have hpos := (List.length_pos_iff.2 hne).trans_le (length_le_byteSize form.opener)
    simpa [Span.isBlock, Span.opening, hc] using hpos
  | run marker => simp [Span.isBlock, Span.opening, hc]

lemma isDelimited_toBlock_of_mem {rule : Rule} {t : Text} {c : Span} (hc : c ∈ scan rule t) :
    (c.toBlock rule).isDelimited = c.isBlock := by
  obtain ⟨u, v, -, hs⟩ := (standing_scan rule t).stands c hc
  exact hs.isDelimited_toBlock

/-- Searching line comments leaves the blocks of block comments and the problems as they are. -/
lemma extract_unsearched {rule : Rule} (hpart : rule.wholeFile = false) (t : Text) :
    (extract (rule.withSearchable false) t).blocks =
        (extract (rule.withSearchable true) t).blocks.filter Block.isDelimited ∧
      (extract (rule.withSearchable false) t).problems =
        (extract (rule.withSearchable true) t).problems := by
  rw [extract_withSearchable rule false hpart, extract_withSearchable rule true hpart]
  refine ⟨?_, rfl⟩
  simp only [selected_unsearched, List.filter_map]
  congr 1
  refine List.filter_congr fun c hc => ?_
  exact (isDelimited_toBlock_of_mem ((selected_sublist _ _ _).subset hc)).symm

end Exemplar.Comment

namespace Exemplar.Harvest
open Comment Text

/-- Fewer blocks have fewer examples. -/
lemma examples_sublist {rule rule' : Rule} {t : Text}
    (h : (extract rule t).blocks.Sublist (extract rule' t).blocks) (table : Prompt.Table) :
    (ofText rule table t).examples.Sublist (ofText rule' table t).examples :=
  (h.flatMap (itemsOf table)).filterMap example?

/-- Whatever a rule searches, searching line comments too takes no example away. -/
lemma examples_withSearchable (rule : Rule) (table : Prompt.Table) (t : Text) :
    (ofText rule table t).examples.Sublist
      (ofText (rule.withSearchable true) table t).examples := by
  refine examples_sublist ?_ table
  cases hw : rule.wholeFile with
  | true =>
    have hw' : (rule.withSearchable true).wholeFile = true := hw
    rw [extract, extract, if_pos hw, if_pos hw']
  | false =>
    obtain ⟨hblocks, -⟩ := extract_unsearched hw t
    have hself : rule.withSearchable rule.searchable = rule := rfl
    cases hs : rule.searchable with
    | true =>
      rw [hs] at hself
      rw [hself]
    | false =>
      rw [hs] at hself
      rw [hself] at hblocks
      rw [hblocks]
      exact List.filter_sublist

/-- Every file that can be harvested holds the same examples, and perhaps more, when all line
comments are searched. -/
theorem ofFile_sublist {tree : Files.Tree} {table : Prompt.Table} {p : Path} {h : Harvest}
    (hf : ofFile tree table false p = .ok h) :
    ∃ h', ofFile tree table true p = .ok h' ∧ h.examples.Sublist h'.examples := by
  rw [ofFile, ruleFor?] at hf ⊢
  cases hr : Files.ruleFor? p with
  | none => simp [hr] at hf
  | some rule =>
    cases ht : tree.readText p with
    | error cause => simp [hr, ht] at hf
    | ok t =>
      simp only [hr, ht, Option.map_some, Bool.false_eq_true, if_false, if_true,
        Except.ok.injEq] at hf ⊢
      subst hf
      exact ⟨_, rfl, examples_withSearchable rule table t⟩

/-- The blocks of a text whose line comments are not searched are those of its block comments,
with the same places and texts, among the blocks of the text with line comments searched. The
problems of the comments are the same, and the examples are some of the examples that there are
with line comments searched, in their order. -/
theorem ofText_unsearched {rule : Rule} (hpart : rule.wholeFile = false) (table : Prompt.Table)
    (t : Text) :
    (extract (rule.withSearchable false) t).blocks =
        (extract (rule.withSearchable true) t).blocks.filter Block.isDelimited ∧
      (∀ b ∈ (extract (rule.withSearchable true) t).blocks, b.isDelimited = true ↔
        ∃ c ∈ scan rule t, c.isBlock = true ∧ b = c.toBlock rule) ∧
      (extract (rule.withSearchable false) t).problems =
        (extract (rule.withSearchable true) t).problems ∧
      (ofText (rule.withSearchable false) table t).examples.Sublist
        (ofText (rule.withSearchable true) table t).examples := by
  obtain ⟨hblocks, hproblems⟩ := extract_unsearched hpart t
  refine ⟨hblocks, fun b hb => ⟨fun hd => ?_, ?_⟩, hproblems, examples_sublist ?_ table⟩
  · rw [extract_withSearchable rule true hpart] at hb
    obtain ⟨c, hc, rfl⟩ := List.mem_map.1 hb
    have hscan := (selected_sublist _ _ _).subset hc
    exact ⟨c, hscan, (isDelimited_toBlock_of_mem hscan).symm.trans hd, rfl⟩
  · rintro ⟨c, hc, hblock, rfl⟩
    exact (isDelimited_toBlock_of_mem hc).trans hblock
  · rw [hblocks]
    exact List.filter_sublist

/-- The opener in the first line comment opens no block, with or without searching. -/
theorem ofText_unsearched_hidden_opener :
    ∃ rule t, rule = Rule.slash ∧ rule.wholeFile = false ∧
      t = "// $ a /*\n/* $ b\n */ //\n// $ c".toList ∧
      (extract (rule.withSearchable true) t).blocks.map Block.line = [1, 2, 3, 4] ∧
      (extract (rule.withSearchable false) t).blocks.map Block.line = [2] ∧
      (ofText (rule.withSearchable true) .standard t).examples.map Example.line = [1, 2, 4] ∧
      (ofText (rule.withSearchable false) .standard t).examples.Sublist
        (ofText (rule.withSearchable true) .standard t).examples := by
  let rule := Rule.slash
  let t := "// $ a /*\n/* $ b\n */ //\n// $ c".toList
  have hpart : rule.wholeFile = false := rfl
  obtain ⟨-, -, -, hexamples⟩ := ofText_unsearched hpart .standard t
  refine ⟨rule, t, rfl, hpart, rfl, ?_, ?_, ?_, hexamples⟩ <;> decide +kernel

end Exemplar.Harvest
