import Exemplar.Prompt.Table
import Exemplar.Proofs.Text.Occurrence
import Exemplar.Proofs.Text.Trimming

/-!
# Lines that begin an example

Whether a line begins an example depends only on the text behind its indentation, and a
shorter text begins an example only if every longer one does. The line is its indentation,
the primary marker and the statement one behind the other.
-/
namespace Exemplar.Prompt
open Text

lemma Proper.primary_ne_nil {p : Prompt} (h : p.Proper) : p.primary ≠ [] := by
  intro he
  have := h.1
  simp [he, allBlank] at this

lemma Proper.continuation_ne_nil {p : Prompt} (h : p.Proper) : p.continuation ≠ [] := by
  intro he
  have := h.2
  simp [he, allBlank] at this

lemma Proper.bare_ne_nil {p : Prompt} (h : p.Proper) : bare p.continuation ≠ [] := by
  intro he
  have := h.2
  simp [trimEnd_eq_nil.1 he] at this

namespace Table

lemma firstPrimary?_eq_some {ps : List Prompt} {t rest : Text} {p : Prompt}
    (h : firstPrimary? t ps = some (p, rest)) : p ∈ ps ∧ t = p.primary ++ rest := by
  induction ps with
  | nil => simp [firstPrimary?] at h
  | cons q ps ih =>
    rw [firstPrimary?] at h
    split at h
    · rename_i r hr
      cases h
      exact ⟨by simp, stripPrefix?_eq_some.1 hr⟩
    · obtain ⟨hm, ht⟩ := ih h
      exact ⟨by simp [hm], ht⟩

lemma firstPrimary?_eq_none {ps : List Prompt} {t : Text} :
    firstPrimary? t ps = none ↔ ∀ p ∈ ps, ¬ p.primary <+: t := by
  induction ps with
  | nil => simp [firstPrimary?]
  | cons q ps ih =>
    rw [firstPrimary?]
    split
    · rename_i r hr
      have hp : q.primary <+: t := ⟨r, (stripPrefix?_eq_some.1 hr).symm⟩
      simp [hp]
    · rename_i hr
      simp [ih, stripPrefix?_eq_none.1 hr]

lemma primary?_eq_none {table : Table} {l : Text} :
    table.primary? l = none ↔ ∀ p ∈ table.prompts, ¬ p.primary <+: trimStart l := by
  rw [primary?, Option.map_eq_none_iff, firstPrimary?_eq_none]

/-- A blank line begins no example. -/
lemma primary?_of_allBlank (table : Table) {l : Text} (h : allBlank l = true) :
    table.primary? l = none := by
  refine primary?_eq_none.2 fun p hp hpre => ?_
  rw [trimStart_eq_nil.2 h, List.prefix_nil] at hpre
  exact (table.proper p hp).primary_ne_nil hpre

/-- Less text behind the indentation begins fewer examples. -/
lemma primary?_eq_none_of_isPrefix {table : Table} {l l' : Text}
    (h : table.primary? l = none) (hp : trimStart l' <+: trimStart l) :
    table.primary? l' = none :=
  primary?_eq_none.2 fun p hm hl => primary?_eq_none.1 h p hm (hl.trans hp)

/-- A line that begins an example is indentation, marker and statement. -/
structure Opens (table : Table) (l : Text) (m : Primary) : Prop where
  known : m.prompt ∈ table.prompts
  indent_eq : m.indent = indent l
  spells : l = m.indent ++ (m.prompt.primary ++ m.statement)

lemma opens_of_primary? {table : Table} {l : Text} {m : Primary}
    (h : table.primary? l = some m) : table.Opens l m := by
  rw [primary?, Option.map_eq_some_iff] at h
  obtain ⟨⟨p, rest⟩, hf, rfl⟩ := h
  obtain ⟨hm, ht⟩ := firstPrimary?_eq_some hf
  refine ⟨hm, rfl, ?_⟩
  change l = indent l ++ (p.primary ++ rest)
  rw [← ht, indent_append_trimStart]

/-- Behind its indentation such a line has the marker and then the statement. -/
lemma Opens.trimStart_eq {table : Table} {l : Text} {m : Primary} (h : table.Opens l m) :
    trimStart l = m.prompt.primary ++ m.statement := by
  have hspells := h.spells
  rw [h.indent_eq] at hspells
  conv at hspells => lhs; rw [← indent_append_trimStart l]
  exact List.append_cancel_left hspells

lemma Opens.proper {table : Table} {l : Text} {m : Primary} (h : table.Opens l m) :
    m.prompt.Proper := table.proper _ h.known

/-- The language of a prompt finds the prompt: no two prompts share theirs. -/
lemma find?_language {table : Table} {p : Prompt} (hp : p ∈ table.prompts) :
    table.find? p.language = some p := by
  cases hf : table.find? p.language with
  | none =>
    have := List.find?_eq_none.1 hf p hp
    simp at this
  | some q =>
    have hl : q.language = p.language := by simpa using List.find?_some hf
    by_cases hq : q = p
    · rw [hq]
    · exact absurd hl (compatible_of_mem table.compatible (find?_mem hf) hp hq).1

end Table

end Exemplar.Prompt
