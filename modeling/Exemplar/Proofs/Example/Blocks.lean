import Exemplar.Example.Reader
import Exemplar.Proofs.Example.Flags
import Exemplar.Proofs.Prompt.Opening
import Mathlib.Data.List.Forall2

/-!
# Blocks of lines

Every line that begins an example makes one item, and the item depends only on that line
and the lines below it. Its block is the line, the longest run of lines that continue the
statement, and the longest run of output below them. No line of a run begins an example,
so blocks do not meet and no beginning is passed over.
-/
namespace Exemplar

/-- A run of elements to which `R` gives the values `bs`, followed by `rest`. The run is the
longest: the first element of `rest` has no value. -/
structure LongestRun {α β : Type} (R : α → β → Prop) (as : List α) (bs : List β)
    (rest : List α) : Prop where
  run : ∃ taken, as = taken ++ rest ∧ List.Forall₂ R taken bs
  maximal : ∀ a ∈ rest.head?, ∀ b, ¬ R a b

lemma LongestRun.nil {α β : Type} {R : α → β → Prop} : LongestRun R [] [] [] :=
  ⟨⟨[], rfl, .nil⟩, by simp⟩

lemma LongestRun.stop {α β : Type} {R : α → β → Prop} {a : α} {as : List α}
    (h : ∀ b, ¬ R a b) : LongestRun R (a :: as) [] (a :: as) :=
  ⟨⟨[], rfl, .nil⟩, by simpa using h⟩

lemma LongestRun.cons {α β : Type} {R : α → β → Prop} {a : α} {b : β} {as rest : List α}
    {bs : List β} (h : LongestRun R as bs rest) (hab : R a b) :
    LongestRun R (a :: as) (b :: bs) rest := by
  obtain ⟨⟨taken, rfl, hf⟩, hm⟩ := h
  exact ⟨⟨a :: taken, rfl, .cons hab hf⟩, hm⟩

/-- What is taken from a list is its longest run. -/
theorem takeMap_longestRun {α β : Type} {R : α → β → Prop} {f : α → Option β}
    (hR : ∀ a b, f a = some b ↔ R a b) (as : List α) :
    LongestRun R as (takeMap f as).1 (takeMap f as).2 := by
  induction as with
  | nil => exact .nil
  | cons a as ih =>
    cases hf : f a with
    | some b =>
      simp only [takeMap, hf]
      exact ih.cons ((hR a b).1 hf)
    | none =>
      simp only [takeMap, hf]
      refine .stop fun b hb => ?_
      rw [(hR a b).2 hb] at hf
      cases hf

/-- A list has only one longest run. -/
theorem LongestRun.takeMap_eq {α β : Type} {R : α → β → Prop} {f : α → Option β}
    (hR : ∀ a b, f a = some b ↔ R a b) {as rest : List α} {bs : List β}
    (h : LongestRun R as bs rest) : takeMap f as = (bs, rest) := by
  obtain ⟨⟨taken, rfl, hf⟩, hm⟩ := h
  induction hf with
  | nil =>
    cases rest with
    | nil => rfl
    | cons a as =>
      have hn : f a = none := by
        cases hf : f a with
        | none => rfl
        | some b => exact absurd ((hR a b).1 hf) (hm a rfl b)
      simp [takeMap, hn]
  | @cons a b taken bs hab _ ih =>
    simp [takeMap, (hR a b).2 hab, ih]

lemma forall_left_of_forall₂ {α β : Type} {R : α → β → Prop} {P : α → Prop} {as : List α}
    {bs : List β} (h : List.Forall₂ R as bs) (hP : ∀ a b, R a b → P a) : ∀ a ∈ as, P a :=
  ((List.forall₂_and_left as bs).1 (h.imp fun a b hab => ⟨hP a b hab, hab⟩)).1

namespace Example
open Text Prompt

/-- The line `l` continues an example with the statement `s`. It does not begin an example,
and it has the indentation of the prompt, then blanks, all of which are passed, and then the
continuation marker before `s`; or else all that stands there is the marker without the
blanks that end it, and `s` is empty. -/
def Continues (table : Table) (p : Prompt) (indent l s : Text) : Prop :=
  table.primary? l = none ∧ ∃ u, l = indent ++ u ∧
    (trimStart u = p.continuation ++ s ∨
      ¬ p.continuation <+: trimStart u ∧ trimEnd (trimStart u) = trimEnd p.continuation ∧ s = [])

/-- The line `l` is the line `o` of output: it does not begin an example, is not blank and
has the indentation of the prompt. -/
def Prints (table : Table) (indent l o : Text) : Prop :=
  table.primary? l = none ∧ allBlank l = false ∧ l = indent ++ o

lemma stripContinuation?_eq_some {p : Prompt} (hp : p.Proper) {u s : Text} :
    p.stripContinuation? u = some s ↔
      u = p.continuation ++ s ∨
        ¬ p.continuation <+: u ∧ trimEnd u = trimEnd p.continuation ∧ s = [] := by
  rw [stripContinuation?]
  cases hs : stripPrefix? p.continuation u with
  | some rest =>
    have hu := stripPrefix?_eq_some.1 hs
    have hpre : p.continuation <+: u := ⟨rest, hu.symm⟩
    simp [hu, eq_comm]
  | none =>
    have hpre := stripPrefix?_eq_none.1 hs
    have hne : ∀ s, u ≠ p.continuation ++ s := fun s he => hpre ⟨s, he.symm⟩
    have hb : trimEnd p.continuation ≠ [] := hp.bare_ne_nil
    simp only [hne, hpre, bare, ne_eq, not_false_eq_true, true_and, false_or]
    by_cases ht : trimEnd u = trimEnd p.continuation <;> simp [ht, hb, eq_comm]

lemma continuation?_eq_some {table : Table} {p : Prompt} {indent l s : Text} (hp : p.Proper) :
    continuation? table p indent l = some s ↔ Continues table p indent l s := by
  rw [continuation?, Continues]
  cases hm : table.primary? l with
  | some m => simp
  | none =>
    simp only [Option.isSome_none, Bool.false_eq_true, if_false, Option.bind_eq_some_iff,
      stripPrefix?_eq_some, stripContinuation?_eq_some hp, true_and]

lemma output?_eq_some {table : Table} {indent l o : Text} :
    output? table indent l = some o ↔ Prints table indent l o := by
  rw [output?, Prints]
  cases hb : allBlank l with
  | true => simp
  | false =>
    cases hm : table.primary? l with
    | some m => simp
    | none => simp [stripPrefix?_eq_some]

/-- What stands below a line that begins an example: the lines that continue its statement
with the statements `more`, the output `out`, and the lines that are left. -/
def Block (table : Table) (m : Table.Primary) (below more out rest : List Text) : Prop :=
  ∃ behind, LongestRun (Continues table m.prompt m.indent) below more behind ∧
    LongestRun (Prints table m.indent) behind out rest

/-- The block that the reader takes. -/
lemma block_of_takeMap {table : Table} {m : Table.Primary} (hp : m.prompt.Proper)
    (below : List Text) :
    Block table m below (takeMap (continuation? table m.prompt m.indent) below).1
      (takeMap (output? table m.indent)
        (takeMap (continuation? table m.prompt m.indent) below).2).1
      (takeMap (output? table m.indent)
        (takeMap (continuation? table m.prompt m.indent) below).2).2 :=
  ⟨_, takeMap_longestRun (fun _ _ => continuation?_eq_some hp) below,
    takeMap_longestRun (fun _ _ => output?_eq_some) _⟩

/-- No line of a block below its first begins an example. -/
lemma Block.exists_taken {table : Table} {m : Table.Primary} {below more out rest : List Text}
    (h : Block table m below more out rest) :
    ∃ taken, below = taken ++ rest ∧ taken.length = more.length + out.length ∧
      ∀ l ∈ taken, table.primary? l = none := by
  obtain ⟨behind, ⟨⟨cs, rfl, hc⟩, -⟩, ⟨os, rfl, ho⟩, -⟩ := h
  refine ⟨cs ++ os, by rw [List.append_assoc], ?_, ?_⟩
  · rw [List.length_append, hc.length_eq, ho.length_eq]
  · intro l hl
    rcases List.mem_append.1 hl with hl | hl
    · exact forall_left_of_forall₂ hc (fun _ _ h => h.1) l hl
    · exact forall_left_of_forall₂ ho (fun _ _ h => h.1) l hl

end Example

end Exemplar
