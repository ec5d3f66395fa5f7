import Exemplar.Proofs.Example.Segmentation
import Exemplar.Proofs.Text.Position

/-!
# Where the examples of a text stand

The number of an example is that of its prompt line, its further statements follow on the
lines below, and its last line is a line of the text. An example ends before the next one
begins.
-/
namespace Exemplar.Example
open Text Prompt

/-- The lines `ls` hold the example from the index `i` on: its opening `m`, the lines that
continue it with its further statements, and lines enough for its output. -/
structure StandsAt (table : Table) (m : Table.Primary) (ls : List Text) (i : Nat) (e : Example) :
    Prop where
  opens : ∃ l, ls[i]? = some l ∧ table.primary? l = some m
  language_eq : e.language = m.prompt.language
  first : e.statements.head? = some m.statement
  continues : ∀ j s, e.statements[j + 1]? = some s →
    ∃ l, ls[i + (j + 1)]? = some l ∧ Continues table m.prompt m.indent l s
  ends : i + e.statements.length + e.expected.length ≤ ls.length

lemma le_line_of_mem_places {table : Table} {line : Nat} {ls : List Text} {q : Place}
    (h : q ∈ places table line ls) : line ≤ q.line := by
  induction ls generalizing line with
  | nil => simp [places] at h
  | cons l ls ih =>
    rcases mem_places_cons.1 h with ⟨m, -, rfl⟩ | h
    · exact Nat.le_refl _
    · exact Nat.le_of_succ_le (ih h)

/-- No place stands in the block of an earlier one. -/
lemma places_pairwise (table : Table) (line : Nat) (ls : List Text) :
    (places table line ls).Pairwise fun q q' =>
      q.line + (q.more table).length + (q.expected table).length < q'.line := by
  induction ls generalizing line with
  | nil => exact .nil
  | cons l ls ih =>
    rw [places]
    split
    · rename_i m hm
      refine List.pairwise_cons.2 ⟨fun q' hq' => ?_, ih _⟩
      obtain ⟨taken, hls, hlen, hno⟩ :=
        (Place.block table (q := ⟨line, m, ls⟩) (Table.opens_of_primary? hm).proper).exists_taken
      have hbelow : ls = taken ++ Place.rest table ⟨line, m, ls⟩ := hls
      rw [hbelow, places_append hno] at hq'
      have := le_line_of_mem_places hq'
      simp only at hlen ⊢
      omega
    · exact ih _

/-- The values of a run stand on the lines of the run. -/
lemma exists_getElem?_of_forall₂ {α β : Type} {R : α → β → Prop} {as : List α} {bs : List β}
    (h : List.Forall₂ R as bs) {j : Nat} {b : β} (hb : bs[j]? = some b) :
    ∃ a, as[j]? = some a ∧ R a b := by
  induction h generalizing j with
  | nil => simp at hb
  | @cons a b' as bs hab _ ih =>
    cases j with
    | zero =>
      obtain rfl : b' = b := by simpa using hb
      exact ⟨a, rfl, hab⟩
    | succ j => exact ih hb

lemma Place.standsAt {table : Table} {q : Place} {ls : List Text} {i : Nat} {l : Text}
    {e : Example} (hl : ls[i]? = some l) (hm : table.primary? l = some q.opening)
    (hbelow : q.below = ls.drop (i + 1)) (he : q.item table = .ok e) :
    e.StandsAt table q.opening ls i := by
  obtain ⟨hlang, hstatements, hexpected, -⟩ := (q.makes table).example_eq e he
  obtain ⟨behind, ⟨⟨cs, hcs, hc⟩, -⟩, ⟨os, hos, ho⟩, -⟩ :=
    Place.block table (Table.opens_of_primary? hm).proper
  have hdrop : ls.drop (i + 1) = cs ++ (os ++ q.rest table) := by rw [← hbelow, hcs, hos]
  refine ⟨⟨l, hl, hm⟩, hlang, by rw [hstatements]; rfl, ?_, ?_⟩
  · intro j s hs
    rw [hstatements, List.getElem?_cons_succ] at hs
    obtain ⟨k, hk, hcont⟩ := exists_getElem?_of_forall₂ hc hs
    refine ⟨k, ?_, hcont⟩
    have hj : j < cs.length := (List.getElem?_eq_some_iff.1 hk).1
    rw [← Nat.add_assoc, Nat.add_right_comm, ← List.getElem?_drop, hdrop,
      List.getElem?_append_left hj, hk]
  · have hlen := congrArg List.length hdrop
    have hi : i < ls.length := (List.getElem?_eq_some_iff.1 hl).1
    simp only [List.length_drop, List.length_append] at hlen
    rw [hstatements, hexpected, List.length_cons, ← hc.length_eq, ← ho.length_eq]
    omega

/-- An example is found on the line that it names. -/
theorem exists_standsAt {table : Table} {first : Nat} {t : Text} {e : Example}
    (h : .ok e ∈ parse table first t) :
    ∃ m i, e.line = first + i ∧ e.StandsAt table m (lines t) i := by
  obtain ⟨q, hq, hitem⟩ := mem_parse.1 h
  obtain ⟨i, -, ⟨l, hl, hm⟩, hline, hbelow⟩ :=
    exists_of_forall₂ (openings_places table first (lines t)) hq
  have hmake := q.makes table
  obtain ⟨-, -, -, heline, -⟩ := hmake.example_eq e hitem
  exact ⟨q.opening, i, heline.trans hline, Place.standsAt hl hm hbelow hitem⟩

/-- An example of a text ends before the next one begins. -/
theorem parse_pairwise (table : Table) (first : Nat) (t : Text) :
    (parse table first t).Pairwise fun x x' =>
      ∀ a b, x = .ok a → x' = .ok b → a.endLine < b.line := by
  rw [parse_eq_map, List.pairwise_map]
  refine (places_pairwise table first (lines t)).imp ?_
  intro q q' hlt a b ha hb
  obtain ⟨-, hstatements, hexpected, hline, -⟩ := (q.makes table).example_eq a ha
  obtain ⟨-, -, -, hline', -⟩ := (q'.makes table).example_eq b hb
  rw [endLine, hstatements, hexpected, hline, hline', List.length_cons]
  omega

end Exemplar.Example
