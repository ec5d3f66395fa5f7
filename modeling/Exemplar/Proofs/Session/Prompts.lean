import Exemplar.Proofs.Text.Lines
import Exemplar.Session.Spec

/-!
# Remains of prompts

Prefixes are cut off a line as long as one of them begins it. Every cut makes the line shorter, so
the cutting comes to an end, and it ends with a line that none of them begins. A prefix that takes
the break of a line leaves nothing of it. The lines of a stripped output are therefore what is left
of the lines it had, but for those that are gone, and nothing is cut off them a second time.
-/
namespace Exemplar.Text

lemma startsWith_iff_isPrefix {t p : Text} : startsWith t p = true ↔ p <+: t := by
  rw [startsWith_iff]
  exact exists_congr fun r => eq_comm

/-- If each line loses at most its beginning, the lines of the result are what is left of them. -/
lemma splitInclusive_flatMap {f : Text → Text} (hf : ∀ l, f l <:+ l) (t : Text) :
    splitInclusive ((splitInclusive t).flatMap f) =
      ((splitInclusive t).map f).filter (· ≠ []) := by
  induction t using lineInduction with
  | nil => rfl
  | last l hne hl =>
    rw [splitInclusive_of_not_mem hl hne, List.flatMap_singleton, List.map_singleton]
    by_cases hnil : f l = []
    · rw [hnil]
      rfl
    · rw [splitInclusive_of_not_mem (fun h => hl ((hf l).subset h)) hnil]
      simp [hnil]
  | line l t hl ih =>
    rw [splitInclusive_append_newline_cons hl, List.flatMap_cons, List.map_cons]
    rcases List.suffix_concat_iff.1 (hf (l ++ ['\n'])) with hgone | ⟨w, hleft, hw⟩
    · rw [hgone, List.nil_append, ih]
      rfl
    · have hline : '\n' ∉ w := fun h => hl (hw.subset h)
      rw [hleft, List.append_assoc, List.singleton_append,
        splitInclusive_append_newline_cons hline, ih, List.filter_cons_of_pos (by simp)]

end Exemplar.Text

namespace Exemplar.Session.Spec
open Text

/-- As long as one of the prefixes begins a line, the first one that does is cut off. -/
inductive Cuts (prefixes : List Text) : Text → List Text → Text → Prop
  | stop {l : Text} (h : ∀ p ∈ prefixes, ¬ p <+: l) : Cuts prefixes l [] l
  | cut {l p rest r : Text} {cuts : List Text} (hp : prefixes.find? (startsWith l) = some p)
      (hl : l = p ++ rest) (hr : Cuts prefixes rest cuts r) : Cuts prefixes l (p :: cuts) r

variable {prefixes cuts cuts' : List Text} {l p r r' : Text}

namespace Cuts

/-- The prefixes determine every cut. -/
lemma unique (h : Cuts prefixes l cuts r) (h' : Cuts prefixes l cuts' r') :
    cuts = cuts' ∧ r = r' := by
  induction h generalizing cuts' with
  | stop hnone =>
    cases h' with
    | stop => exact ⟨rfl, rfl⟩
    | cut hp hl _ => exact absurd ⟨_, hl.symm⟩ (hnone _ (List.mem_of_find?_eq_some hp))
  | cut hp hl _ ih =>
    cases h' with
    | stop hnone => exact absurd ⟨_, hl.symm⟩ (hnone _ (List.mem_of_find?_eq_some hp))
    | cut hp' hl' hr' =>
      obtain rfl := Option.some.inj (hp.symm.trans hp')
      obtain rfl := List.append_cancel_left (hl.symm.trans hl')
      obtain ⟨rfl, rfl⟩ := ih hr'
      exact ⟨rfl, rfl⟩

lemma spells (h : Cuts prefixes l cuts r) : l = cuts.flatten ++ r := by
  induction h with
  | stop => rfl
  | cut _ hl _ ih => rw [hl, ih, List.flatten_cons, List.append_assoc]

lemma not_isPrefix (h : Cuts prefixes l cuts r) : ∀ p ∈ prefixes, ¬ p <+: r := by
  induction h with
  | stop hnone => exact hnone
  | cut _ _ _ ih => exact ih

/-- There are at most as many cuts as the line has characters. -/
lemma length_le (hne : ∀ p ∈ prefixes, p ≠ []) (h : Cuts prefixes l cuts r) :
    cuts.length ≤ l.length := by
  induction h with
  | stop => exact Nat.zero_le _
  | cut hp hl _ ih =>
    have hpos := List.length_pos_iff.2 (hne _ (List.mem_of_find?_eq_some hp))
    have hlength := congrArg List.length hl
    rw [List.length_append] at hlength
    rw [List.length_cons]
    omega

end Cuts

section
variable (hne : ∀ p ∈ prefixes, p ≠ [])
include hne

lemma stripOnce?_eq (l : Text) :
    stripOnce? prefixes l = (prefixes.find? (startsWith l)).bind (stripPrefix? · l) := by
  induction prefixes with
  | nil => rfl
  | cons p prefixes ih =>
    obtain ⟨hp, hne⟩ := List.forall_mem_cons.1 hne
    have hempty : p.isEmpty = false := by simpa using hp
    specialize ih hne
    rw [stripOnce?] at ih ⊢
    rw [List.findSome?_cons, hempty, List.find?_cons, startsWith]
    cases hs : stripPrefix? p l with
    | none => simpa using ih
    | some rest => simp [hs]

lemma stripOnce?_eq_some : stripOnce? prefixes l = some r ↔
    ∃ p, prefixes.find? (startsWith l) = some p ∧ l = p ++ r := by
  rw [stripOnce?_eq hne, Option.bind_eq_some_iff]
  simp only [stripPrefix?_eq_some]

lemma stripOnce?_eq_none : stripOnce? prefixes l = none ↔ ∀ p ∈ prefixes, ¬ p <+: l := by
  rw [stripOnce?_eq hne, Option.bind_eq_none_iff]
  simp only [← startsWith_iff_isPrefix, Bool.not_eq_true]
  constructor
  · intro h
    cases hf : prefixes.find? (startsWith l) with
    | none => simpa using hf
    | some p =>
      have hstrip := h p hf
      have hbegins := List.find?_some hf
      rw [startsWith, hstrip] at hbegins
      cases hbegins
  · intro h p hf
    have hbegins := List.find?_some hf
    rw [h p (List.mem_of_find?_eq_some hf)] at hbegins
    cases hbegins

/-- The cutting ends with what is left of the line. -/
lemma exists_cuts (l : Text) : ∃ cuts, Cuts prefixes l cuts (stripAll prefixes l) := by
  fun_induction stripAll prefixes l with
  | case1 l hnone => exact ⟨[], .stop ((stripOnce?_eq_none hne).1 hnone)⟩
  | case2 l rest hsome ih =>
    obtain ⟨p, hp, hl⟩ := (stripOnce?_eq_some hne).1 hsome
    obtain ⟨cuts, hr⟩ := ih
    exact ⟨p :: cuts, .cut hp hl hr⟩

lemma stripAll_eq_self (h : ∀ p ∈ prefixes, ¬ p <+: l) : stripAll prefixes l = l := by
  obtain ⟨cuts, hcuts⟩ := exists_cuts hne l
  exact (hcuts.unique (.stop h)).2

end

lemma stripAll_isSuffix (prefixes : List Text) (l : Text) : stripAll prefixes l <:+ l := by
  fun_induction stripAll prefixes l with
  | case1 l => exact List.suffix_rfl
  | case2 l rest h ih =>
    obtain ⟨p, -, hp⟩ := List.exists_of_findSome?_eq_some h
    split at hp
    · cases hp
    · exact ih.trans ⟨p, (stripPrefix?_eq_some.1 hp).symm⟩

lemma stripPrompts_eq (spec : Spec) (output : Text) :
    spec.stripPrompts output = (splitInclusive output).flatMap (stripAll spec.stripPrefixes) := by
  rw [stripPrompts]
  split
  · rename_i h
    have hid : stripAll [] = id := funext fun l => stripAll_eq_self (by simp) (by simp)
    rw [List.isEmpty_iff.1 h, hid, List.flatMap_id, flatten_splitInclusive]
  · rfl

/-- No prefix is empty. Then the cutting has one course on each line, with at most as many cuts as
the line has characters, and it leaves an end of the line. What is left of the lines is the stripped
output, and but for the lines that are gone these are its lines: none of them begins with a prefix,
and nothing changes if the output is stripped again. -/
theorem stripPrompts_settled (spec : Spec) (hne : ∀ p ∈ spec.stripPrefixes, p ≠ [])
    (output : Text) :
    ∃ left : List Text,
      List.Forall₂ (fun l r => r <:+ l ∧ ∃ cuts, cuts.length ≤ l.length ∧
        ∀ cuts' r', Cuts spec.stripPrefixes l cuts' r' ↔ cuts' = cuts ∧ r' = r)
        (splitInclusive output) left ∧
      spec.stripPrompts output = left.flatten ∧
      splitInclusive (spec.stripPrompts output) = left.filter (· ≠ []) ∧
      (∀ l ∈ splitInclusive (spec.stripPrompts output), ∀ p ∈ spec.stripPrefixes, ¬ p <+: l) ∧
      spec.stripPrompts (spec.stripPrompts output) = spec.stripPrompts output := by
  have hlines : splitInclusive (spec.stripPrompts output) =
      ((splitInclusive output).map (stripAll spec.stripPrefixes)).filter (· ≠ []) := by
    rw [stripPrompts_eq, splitInclusive_flatMap (stripAll_isSuffix _)]
  have hstuck : ∀ l ∈ splitInclusive (spec.stripPrompts output),
      ∀ p ∈ spec.stripPrefixes, ¬ p <+: l := by
    rw [hlines]
    intro r hr
    obtain ⟨l, -, rfl⟩ := List.mem_map.1 (List.mem_filter.1 hr).1
    obtain ⟨cuts, hcuts⟩ := exists_cuts hne l
    exact hcuts.not_isPrefix
  refine ⟨(splitInclusive output).map (stripAll spec.stripPrefixes), ?_, ?_, hlines, hstuck, ?_⟩
  · rw [List.forall₂_map_right_iff, List.forall₂_same]
    intro l _
    obtain ⟨cuts, hcuts⟩ := exists_cuts hne l
    refine ⟨stripAll_isSuffix _ l, cuts, hcuts.length_le hne, fun cuts' r' => ⟨fun h => ?_, ?_⟩⟩
    · exact h.unique hcuts
    · rintro ⟨rfl, rfl⟩
      exact hcuts
  · rw [stripPrompts_eq, List.flatMap_def]
  · have hsame : (splitInclusive (spec.stripPrompts output)).map (stripAll spec.stripPrefixes) =
        splitInclusive (spec.stripPrompts output) :=
      (List.map_congr_left fun l hl => stripAll_eq_self hne (hstuck l hl)).trans (List.map_id _)
    rw [stripPrompts_eq spec (spec.stripPrompts output), List.flatMap_def, hsame,
      flatten_splitInclusive]

/-- The first line is cut three times, where the longer of two prefixes comes first, and its break
goes with the last cut. -/
theorem stripPrompts_settled_break_cut :
    ∃ (spec : Spec) (output : Text), (∀ p ∈ spec.stripPrefixes, p ≠ []) ∧
      spec.stripPrompts output = "c\nd".toList ∧
      spec.stripPrompts "c\nd".toList = "c\nd".toList := by
  let prefixes : List Text := ["> > ".toList, ">".toList, "b\n".toList]
  let spec : Spec := { shell with stripPrefixes := prefixes }
  let output : Text := ">> > b\nc\n>d".toList
  have hne : ∀ p ∈ prefixes, p ≠ [] := by decide
  have hlines : splitInclusive output = [">> > b\n".toList, "c\n".toList, ">d".toList] := by
    decide
  have hfirst : Cuts prefixes ">> > b\n".toList [">".toList, "> > ".toList, "b\n".toList] [] :=
    .cut (by decide) rfl (.cut (by decide) rfl (.cut (by decide) rfl (.stop (by decide))))
  have hsecond : Cuts prefixes "c\n".toList [] "c\n".toList := .stop (by decide)
  have hthird : Cuts prefixes ">d".toList [">".toList] "d".toList :=
    .cut (by decide) rfl (.stop (by decide))
  obtain ⟨left, hleft, hstripped, -, -, hagain⟩ := stripPrompts_settled spec hne output
  rw [hlines] at hleft
  obtain ⟨_, _, ⟨-, _, -, h1⟩, htail, rfl⟩ := List.forall₂_cons_left_iff.1 hleft
  obtain ⟨_, _, ⟨-, _, -, h2⟩, hlast, rfl⟩ := List.forall₂_cons_left_iff.1 htail
  obtain ⟨_, _, ⟨-, _, -, h3⟩, hnil, rfl⟩ := List.forall₂_cons_left_iff.1 hlast
  obtain rfl := List.forall₂_nil_left_iff.1 hnil
  rw [← ((h1 _ _).1 hfirst).2, ← ((h2 _ _).1 hsecond).2, ← ((h3 _ _).1 hthird).2] at hstripped
  have hresult : spec.stripPrompts output = "c\nd".toList := hstripped
  rw [hresult] at hagain
  exact ⟨spec, output, hne, hresult, hagain⟩

end Exemplar.Session.Spec
