import Exemplar.Proofs.Prompt.Opening

/-!
# Tables restricted to some languages

A line begins an example with the longest primary marker that stands behind its indentation,
and no two prompts share a marker. A table restricted to some languages therefore reads a line
as the full table does when the language found there is one of them, and it finds nothing where
the full table finds nothing.
-/
namespace Exemplar.Prompt
open Text

/-- Two beginnings of a text that have the same size are the same. -/
lemma eq_of_isPrefix_of_byteSize {a b t : Text} (ha : a <+: t) (hb : b <+: t)
    (h : byteSize a = byteSize b) : a = b := by
  have key : ∀ {x y : Text}, x <+: y → byteSize x = byteSize y → x = y := by
    rintro x _ ⟨z, rfl⟩ hz
    have hlen := length_le_byteSize z
    rw [byteSize_append] at hz
    have hnil : z = [] := List.length_eq_zero_iff.1 (by omega)
    rw [hnil, List.append_nil]
  rcases List.prefix_or_prefix_of_prefix ha hb with hab | hba
  · exact key hab h
  · exact (key hba h.symm).symm

namespace Table

lemma eq_of_language_eq {table : Table} {p q : Prompt} (hp : p ∈ table.prompts)
    (hq : q ∈ table.prompts) (h : p.language = q.language) : p = q := by
  by_contra hne
  exact (compatible_of_mem table.compatible hp hq hne).1 h

lemma eq_of_primary_eq {table : Table} {p q : Prompt} (hp : p ∈ table.prompts)
    (hq : q ∈ table.prompts) (h : p.primary = q.primary) : p = q := by
  by_contra hne
  exact (compatible_of_mem table.compatible hp hq hne).2 h

/-- In a ranked list the first marker that begins a text is the longest one that does. -/
lemma firstPrimary?_outranks {ps : List Prompt} (hs : ps.Pairwise Outranks) {t rest : Text}
    {p q : Prompt} (h : firstPrimary? t ps = some (p, rest)) (hq : q ∈ ps)
    (hqt : q.primary <+: t) : p.Outranks q := by
  induction ps with
  | nil => simp at hq
  | cons r ps ih =>
    obtain ⟨hr, hps⟩ := List.pairwise_cons.1 hs
    rw [firstPrimary?] at h
    split at h
    · cases h
      rcases List.mem_cons.1 hq with rfl | hq
      · exact Nat.le_refl _
      · exact hr q hq
    · rename_i hno
      rcases List.mem_cons.1 hq with rfl | hq
      · exact absurd hqt (stripPrefix?_eq_none.1 hno)
      · exact ih hps h hq

/-- A line begins an example with the longest of the markers that stand there. -/
theorem primary?_eq_some {table : Table} {l : Text} {m : Primary} :
    table.primary? l = some m ↔
      table.Opens l m ∧ ∀ q ∈ table.prompts, q.primary <+: trimStart l → m.prompt.Outranks q := by
  have found : ∀ {m' : Primary}, table.primary? l = some m' →
      table.Opens l m' ∧
        ∀ q ∈ table.prompts, q.primary <+: trimStart l → m'.prompt.Outranks q := by
    intro m' h
    refine ⟨opens_of_primary? h, fun q hq hqt => ?_⟩
    rw [primary?, Option.map_eq_some_iff] at h
    obtain ⟨⟨p, rest⟩, hf, rfl⟩ := h
    exact firstPrimary?_outranks table.sorted hf hq hqt
  refine ⟨found, ?_⟩
  rintro ⟨hm, hlongest⟩
  have hpre : m.prompt.primary <+: trimStart l := ⟨m.statement, hm.trimStart_eq.symm⟩
  cases h : table.primary? l with
  | none => exact absurd hpre (primary?_eq_none.1 h m.prompt hm.known)
  | some m' =>
    obtain ⟨hm', hlongest'⟩ := found h
    have hpre' : m'.prompt.primary <+: trimStart l := ⟨m'.statement, hm'.trimStart_eq.symm⟩
    have hsize : byteSize m'.prompt.primary = byteSize m.prompt.primary :=
      Nat.le_antisymm (hlongest m'.prompt hm'.known hpre') (hlongest' m.prompt hm.known hpre)
    have hprompt : m'.prompt = m.prompt :=
      eq_of_primary_eq hm'.known hm.known (eq_of_isPrefix_of_byteSize hpre' hpre hsize)
    have hindent : m'.indent = m.indent := hm'.indent_eq.trans hm.indent_eq.symm
    have hstatement : m'.statement = m.statement := by
      have h := hm'.trimStart_eq.symm.trans hm.trimStart_eq
      rw [hprompt] at h
      exact List.append_cancel_left h
    obtain ⟨p, i, s⟩ := m
    obtain ⟨p', i', s'⟩ := m'
    simp only at hprompt hindent hstatement
    rw [hprompt, hindent, hstatement]

/-- What is picked are the prompts of the wanted languages. -/
lemma mem_pick {table : Table} {chosen picked : List Prompt} {ls : List String}
    (h : table.pick chosen ls = .ok picked) {p : Prompt} :
    p ∈ picked ↔ p ∈ chosen ∨ p ∈ table.prompts ∧ p.language ∈ ls := by
  induction ls generalizing chosen with
  | nil =>
    cases h
    simp
  | cons l ls ih =>
    rw [pick] at h
    cases hf : table.find? l with
    | none => simp [hf] at h
    | some q =>
      simp only [hf] at h
      rw [ih h]
      have hq : q ∈ table.prompts := find?_mem hf
      have hl : q.language = l := by simpa using List.find?_some hf
      have hp : p ∈ table.prompts ∧ p.language = l ↔ p = q := by
        constructor
        · rintro ⟨hp, he⟩
          exact eq_of_language_eq hp hq (he.trans hl.symm)
        · rintro rfl
          exact ⟨hq, hl⟩
      have hchosen : p ∈ (if q ∈ chosen then chosen else chosen ++ [q]) ↔ p ∈ chosen ∨ p = q := by
        by_cases hc : q ∈ chosen
        · rw [if_pos hc, or_iff_left_of_imp]
          rintro rfl
          exact hc
        · simp [hc]
      rw [hchosen, List.mem_cons, and_or_left, ← hp, or_assoc]

lemma exists_pick {table : Table} (chosen : List Prompt) {ls : List String}
    (h : ∀ l ∈ ls, l ∈ table.languages) : ∃ picked, table.pick chosen ls = .ok picked := by
  induction ls generalizing chosen with
  | nil => exact ⟨chosen, rfl⟩
  | cons l ls ih =>
    obtain ⟨q, hq, rfl⟩ := List.mem_map.1 (h l (by simp))
    rw [pick, find?_language hq]
    exact ih _ fun l' hl' => h l' (by simp [hl'])

/-- The prompts of `table'` are those of `table` whose language is one of `ls`. -/
def Restricts (table' table : Table) (ls : List String) : Prop :=
  ∀ p, p ∈ table'.prompts ↔ p ∈ table.prompts ∧ p.language ∈ ls

/-- A table can be restricted to any of its languages. -/
theorem exists_select {table : Table} {ls : List String} (h : ∀ l ∈ ls, l ∈ table.languages) :
    ∃ table', table.select ls = .ok table' ∧ table'.Restricts table ls := by
  obtain ⟨picked, hp⟩ := exists_pick [] h
  unfold select
  split
  · rename_i e he
    rw [hp] at he
    cases he
  · rename_i picked' he
    obtain rfl : picked = picked' := by
      rw [hp] at he
      exact Except.ok.inj he
    refine ⟨_, rfl, fun p => ?_⟩
    have hmem := mem_pick he (p := p)
    simp only [List.not_mem_nil, false_or] at hmem
    rw [← hmem]
    exact (ranked_perm picked).mem_iff

/-- The line begins an example of a language that is none of `ls`. -/
def beginsOther (table : Table) (ls : List String) (l : Text) : Bool :=
  (table.primary? l).any fun m => decide (m.prompt.language ∉ ls)

section
variable {table table' : Table} {ls : List String} {l : Text}

lemma beginsOther_of_primary? {m : Primary} (h : table.primary? l = some m) :
    table.beginsOther ls l = decide (m.prompt.language ∉ ls) := by
  rw [beginsOther, h]
  rfl

lemma Restricts.primary?_eq_none (hr : table'.Restricts table ls)
    (h : table.primary? l = none) : table'.primary? l = none :=
  Table.primary?_eq_none.2 fun p hp => Table.primary?_eq_none.1 h p ((hr p).1 hp).1

/-- A prompt of a selected language is read as before. -/
lemma Restricts.primary?_eq_some (hr : table'.Restricts table ls) {m : Primary}
    (h : table.primary? l = some m) (hm : m.prompt.language ∈ ls) :
    table'.primary? l = some m := by
  obtain ⟨hopens, hlongest⟩ := Table.primary?_eq_some.1 h
  refine Table.primary?_eq_some.2 ⟨⟨(hr _).2 ⟨hopens.known, hm⟩, hopens.indent_eq,
    hopens.spells⟩, fun q hq => ?_⟩
  exact hlongest q ((hr q).1 hq).1

/-- Only lines of other languages are read in another way. -/
theorem Restricts.primary?_eq (hr : table'.Restricts table ls)
    (h : table.beginsOther ls l = false) : table'.primary? l = table.primary? l := by
  cases hm : table.primary? l with
  | none => exact hr.primary?_eq_none hm
  | some m =>
    rw [beginsOther_of_primary? hm] at h
    exact hr.primary?_eq_some hm (by simpa using h)

end

end Table

end Exemplar.Prompt
