import Exemplar.Prompt.Basic

/-!
# Prompt tables

A table holds the prompts of several languages, longest primary marker first, so that
the first marker a line begins with is the longest one. Tables are built from lists in
which no marker is blank and no two prompts share their language or primary marker;
these facts stay with the table.
-/
namespace Exemplar.Prompt
open Text

/-- Not shorter than another primary marker. -/
def Outranks (p q : Prompt) : Prop := byteSize q.primary ≤ byteSize p.primary

instance (p q : Prompt) : Decidable (p.Outranks q) := by unfold Outranks; infer_instance

/-- Put a prompt before the first one that is not longer. -/
def insertRanked (p : Prompt) : List Prompt → List Prompt
  | [] => [p]
  | q :: qs => if p.Outranks q then p :: q :: qs else q :: insertRanked p qs

/-- Longest primary marker first; equal lengths keep their order. -/
def ranked (ps : List Prompt) : List Prompt := ps.foldr insertRanked []

theorem insertRanked_perm (p : Prompt) (qs : List Prompt) : (insertRanked p qs).Perm (p :: qs) := by
  induction qs with
  | nil => exact .refl _
  | cons q qs ih =>
    simp only [insertRanked]
    split
    · exact .refl _
    · exact (ih.cons q).trans (.swap p q qs)

theorem ranked_perm (ps : List Prompt) : (ranked ps).Perm ps := by
  induction ps with
  | nil => exact .refl _
  | cons p ps ih => exact (insertRanked_perm p _).trans (ih.cons p)

theorem insertRanked_sorted {p : Prompt} {qs : List Prompt} (h : qs.Pairwise Outranks) :
    (insertRanked p qs).Pairwise Outranks := by
  induction qs with
  | nil => simp [insertRanked]
  | cons q qs ih =>
    obtain ⟨hq, hqs⟩ := List.pairwise_cons.1 h
    simp only [insertRanked]
    split
    · rename_i hp
      refine List.pairwise_cons.2 ⟨?_, h⟩
      intro r hr
      rcases List.mem_cons.1 hr with rfl | hr
      · exact hp
      · exact Nat.le_trans (hq r hr) hp
    · rename_i hp
      refine List.pairwise_cons.2 ⟨?_, ih hqs⟩
      intro r hr
      rcases List.mem_cons.1 ((insertRanked_perm p qs).mem_iff.1 hr) with rfl | hr
      · exact Nat.le_of_lt (Nat.lt_of_not_le hp)
      · exact hq r hr

theorem ranked_sorted (ps : List Prompt) : (ranked ps).Pairwise Outranks := by
  induction ps with
  | nil => simp [ranked]
  | cons p ps ih => exact insertRanked_sorted ih

/-- The prompts that a reader of examples knows. -/
structure Table where
  prompts : List Prompt
  proper : ∀ p ∈ prompts, p.Proper
  compatible : prompts.Pairwise Compatible
  sorted : prompts.Pairwise Outranks

inductive TableError
  | ambiguousMarker (first second : String) (marker : Text)
  | emptyMarker (language : String)
  | duplicateLanguage (language : String)
  | unknownLanguage (language : String)
  deriving DecidableEq, Repr

def TableError.message : TableError → String
  | ambiguousMarker a b m => s!"languages `{a}` and `{b}` share the prompt `{String.ofList m}`"
  | emptyMarker l => s!"language `{l}` has an empty prompt marker"
  | duplicateLanguage l => s!"language `{l}` is configured twice"
  | unknownLanguage l => s!"unknown language `{l}`"

/-- The clash of a prompt with the first earlier one that it is not compatible with. -/
def clash? (p : Prompt) : List Prompt → Option TableError
  | [] => none
  | q :: qs =>
    if q.language = p.language then some (.duplicateLanguage p.language)
    else if q.primary = p.primary then some (.ambiguousMarker q.language p.language p.primary)
    else clash? p qs

/-- What is wrong with the first prompt that cannot follow those before it. -/
def fault? (earlier : List Prompt) : List Prompt → Option TableError
  | [] => none
  | p :: ps =>
    if p.Proper then
      match clash? p earlier with
      | some e => some e
      | none => fault? (earlier ++ [p]) ps
    else some (.emptyMarker p.language)

theorem clash?_eq_none {p : Prompt} {qs : List Prompt} :
    clash? p qs = none ↔ ∀ q ∈ qs, q.Compatible p := by
  induction qs with
  | nil => simp [clash?]
  | cons q qs ih =>
    by_cases h₁ : q.language = p.language
    · simp [clash?, Compatible, h₁]
    · by_cases h₂ : q.primary = p.primary <;> simp [clash?, Compatible, h₁, h₂, ih]

theorem fault?_eq_none {earlier ps : List Prompt} :
    fault? earlier ps = none ↔
      (∀ p ∈ ps, p.Proper) ∧ (∀ q ∈ earlier, ∀ p ∈ ps, q.Compatible p) ∧
        ps.Pairwise Compatible := by
  induction ps generalizing earlier with
  | nil => simp [fault?]
  | cons p ps ih =>
    by_cases hp : p.Proper
    · cases hc : clash? p earlier with
      | some e =>
        have : ¬ ∀ q ∈ earlier, q.Compatible p := fun h => by simp [clash?_eq_none.2 h] at hc
        simp only [fault?, hp, hc, if_true, reduceCtorEq, false_iff]
        exact fun h => this fun q hq => h.2.1 q hq p (by simp)
      | none =>
        have := clash?_eq_none.1 hc
        simp only [fault?, hp, hc, if_true, ih, List.mem_append, List.mem_cons, List.not_mem_nil,
          or_false, List.pairwise_cons, forall_eq_or_imp, true_and]
        constructor
        · rintro ⟨h₁, h₂, h₃⟩
          exact ⟨h₁, fun q hq => ⟨this q hq, h₂ q (.inl hq)⟩, h₂ p (.inr rfl), h₃⟩
        · rintro ⟨h₁, h₂, h₃, h₄⟩
          refine ⟨h₁, ?_, h₄⟩
          rintro q (hq | rfl)
          · exact (h₂ q hq).2
          · exact h₃
    · simp [fault?, hp]

namespace Table

/-- The table of a list of prompts that fit together. -/
def ofProper (ps : List Prompt) (proper : ∀ p ∈ ps, p.Proper)
    (compatible : ps.Pairwise Compatible) : Table where
  prompts := ranked ps
  proper := fun p hp => proper p ((ranked_perm ps).mem_iff.1 hp)
  compatible := compatible.perm (ranked_perm ps).symm Compatible.symm
  sorted := ranked_sorted ps

def ofList (ps : List Prompt) : Except TableError Table :=
  match h : fault? [] ps with
  | some e => .error e
  | none => .ok (ofProper ps (fault?_eq_none.1 h).1 (fault?_eq_none.1 h).2.2)

/-- The prompts known from the start: Python, Ruby, shell and C++. -/
def standardPrompts : List Prompt :=
  [⟨"python", ">>> ".toList, "... ".toList⟩, ⟨"ruby", ">> ".toList, "?> ".toList⟩,
   ⟨"shell", "$ ".toList, "> ".toList⟩, ⟨"cpp", "?: ".toList, ":: ".toList⟩]

def standard : Table := ofProper standardPrompts (by decide) (by decide)

def find? (table : Table) (language : String) : Option Prompt :=
  table.prompts.find? fun p => p.language == language

def languages (table : Table) : List String := table.prompts.map Prompt.language

/-- The prompts of the wanted languages, each once, in the order of the request. -/
def pick (table : Table) (chosen : List Prompt) : List String → Except TableError (List Prompt)
  | [] => .ok chosen
  | l :: ls =>
    match table.find? l with
    | none => .error (.unknownLanguage l)
    | some p => pick table (if p ∈ chosen then chosen else chosen ++ [p]) ls

theorem find?_mem {table : Table} {l : String} {p : Prompt} (h : table.find? l = some p) :
    p ∈ table.prompts := List.mem_of_find?_eq_some h

theorem pick_ok {table : Table} {chosen picked : List Prompt} {ls : List String}
    (h : table.pick chosen ls = .ok picked) (hm : ∀ p ∈ chosen, p ∈ table.prompts)
    (hn : chosen.Nodup) : (∀ p ∈ picked, p ∈ table.prompts) ∧ picked.Nodup := by
  induction ls generalizing chosen with
  | nil => cases h; exact ⟨hm, hn⟩
  | cons l ls ih =>
    simp only [pick] at h
    split at h
    · cases h
    · rename_i p hp
      split at h
      · exact ih h hm hn
      · rename_i hc
        refine ih h ?_ ?_
        · intro q hq
          rcases List.mem_append.1 hq with hq | hq
          · exact hm q hq
          · rw [List.mem_singleton.1 hq]; exact find?_mem hp
        · refine List.nodup_append.2 ⟨hn, by simp, ?_⟩
          intro a ha b hb
          rw [List.mem_singleton.1 hb]
          rintro rfl
          exact hc ha

/-- Different prompts of a list that fits together are compatible. -/
theorem compatible_of_mem {ps : List Prompt} (h : ps.Pairwise Compatible) {p q : Prompt}
    (hp : p ∈ ps) (hq : q ∈ ps) (hne : p ≠ q) : p.Compatible q := by
  induction ps with
  | nil => simp at hp
  | cons r rs ih =>
    obtain ⟨hr, hrs⟩ := List.pairwise_cons.1 h
    rcases List.mem_cons.1 hp with rfl | hp' <;> rcases List.mem_cons.1 hq with rfl | hq'
    · exact absurd rfl hne
    · exact hr q hq'
    · exact (hr p hp').symm
    · exact ih hrs hp' hq'

/-- The table restricted to some of its languages. -/
def select (table : Table) (ls : List String) : Except TableError Table :=
  match h : table.pick [] ls with
  | .error e => .error e
  | .ok picked =>
    have hp := pick_ok h (by simp) List.nodup_nil
    .ok (ofProper picked (fun p hm => table.proper p (hp.1 p hm))
      (hp.2.imp_of_mem fun ha hb hne =>
        compatible_of_mem table.compatible (hp.1 _ ha) (hp.1 _ hb) hne))

/-- A line that begins an example: its prompt, its indentation and the statement. -/
structure Primary where
  prompt : Prompt
  indent : Text
  statement : Text
  deriving DecidableEq, Repr

/-- The first prompt of a list whose primary marker begins a text, with what follows. -/
def firstPrimary? (t : Text) : List Prompt → Option (Prompt × Text)
  | [] => none
  | p :: ps =>
    match stripPrefix? p.primary t with
    | some rest => some (p, rest)
    | none => firstPrimary? t ps

def primary? (table : Table) (l : Text) : Option Primary :=
  (firstPrimary? (trimStart l) table.prompts).map fun found => ⟨found.1, indent l, found.2⟩

end Table

end Exemplar.Prompt
