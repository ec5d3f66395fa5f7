import Exemplar.Proofs.Example.Segmentation
import Exemplar.Proofs.Prompt.Selection

/-!
# The order of the prompts

Which line begins which example is a matter of the prompts of a table and not of their order: of
the markers that stand behind the indentation the longest one counts, and no two prompts share
theirs. Lists with the same prompts therefore make tables that read every text in the same way,
and a selection looks lines up among the prompts that were selected.
-/
namespace Exemplar.Prompt
open Text

/-- Prompts that make a table: no marker is blank, and no language and no primary marker is there
twice. -/
structure Fit (ps : List Prompt) : Prop where
  primary : ∀ p ∈ ps, allBlank p.primary = false
  continuation : ∀ p ∈ ps, allBlank p.continuation = false
  languages : (ps.map Prompt.language).Nodup
  primaries : (ps.map Prompt.primary).Nodup

lemma fit_iff {ps : List Prompt} :
    Fit ps ↔ (∀ p ∈ ps, p.Proper) ∧ ps.Pairwise Compatible := by
  have hpairs : ps.Pairwise Compatible ↔
      (ps.map Prompt.language).Nodup ∧ (ps.map Prompt.primary).Nodup := by
    unfold List.Nodup
    rw [List.pairwise_map, List.pairwise_map]
    exact List.pairwise_and_iff
  rw [hpairs]
  constructor
  · intro h
    exact ⟨fun p hp => ⟨h.primary p hp, h.continuation p hp⟩, h.languages, h.primaries⟩
  · rintro ⟨hp, hl, hm⟩
    exact ⟨fun p h => (hp p h).1, fun p h => (hp p h).2, hl, hm⟩

lemma Fit.perm {ps ps' : List Prompt} (h : Fit ps) (hp : ps'.Perm ps) : Fit ps' where
  primary p hm := h.primary p (hp.mem_iff.1 hm)
  continuation p hm := h.continuation p (hp.mem_iff.1 hm)
  languages := (hp.map _).nodup_iff.2 h.languages
  primaries := (hp.map _).nodup_iff.2 h.primaries

lemma byteSize_le_of_isPrefix {s t : Text} (h : s <+: t) : byteSize s ≤ byteSize t := by
  obtain ⟨u, rfl⟩ := h
  rw [byteSize_append]
  exact Nat.le_add_right _ _

/-- Of two beginnings of a text the one with fewer bytes is the one with fewer characters. -/
lemma byteSize_le_iff_of_isPrefix {a b t : Text} (ha : a <+: t) (hb : b <+: t) :
    byteSize a ≤ byteSize b ↔ a.length ≤ b.length := by
  constructor
  · intro h
    rcases List.prefix_or_prefix_of_prefix ha hb with hab | hba
    · exact hab.length_le
    · have hsize := Nat.le_antisymm h (byteSize_le_of_isPrefix hba)
      rw [eq_of_isPrefix_of_byteSize ha hb hsize]
  · exact fun h => byteSize_le_of_isPrefix (List.prefix_of_prefix_length_le ha hb h)

namespace Table

/-- Of the prompts whose primary marker stands behind the indentation of the line, `m` has the one
with the longest marker. -/
structure Longest (ps : List Prompt) (l : Text) (m : Primary) : Prop where
  mem : m.prompt ∈ ps
  indent_eq : m.indent = indent l
  spells : trimStart l = m.prompt.primary ++ m.statement
  longest : ∀ q ∈ ps, q.primary <+: trimStart l → q ≠ m.prompt →
    q.primary.length < m.prompt.primary.length

/-- On every line the table finds the prompt with the longest marker of the list, and nothing
where there is none. -/
structure LooksUp (table : Table) (ps : List Prompt) : Prop where
  eq_some : ∀ l m, table.primary? l = some m ↔ Longest ps l m
  eq_none : ∀ l, table.primary? l = none ↔ ∀ p ∈ ps, ¬ p.primary <+: trimStart l

/-- The order of the prompts plays no part. -/
theorem looksUp {table : Table} {ps : List Prompt} (h : ∀ p, p ∈ table.prompts ↔ p ∈ ps) :
    table.LooksUp ps := by
  refine ⟨fun l m => ?_, fun l => ?_⟩
  · rw [primary?_eq_some]
    constructor
    · rintro ⟨hm, hlongest⟩
      refine ⟨(h _).1 hm.known, hm.indent_eq, hm.trimStart_eq, fun q hq hql hne => ?_⟩
      have hq' := (h q).2 hq
      have hml : m.prompt.primary <+: trimStart l := ⟨m.statement, hm.trimStart_eq.symm⟩
      have hle := (byteSize_le_iff_of_isPrefix hql hml).1 (hlongest q hq' hql)
      refine Nat.lt_of_le_of_ne hle fun he => hne (eq_of_primary_eq hq' hm.known ?_)
      exact (List.prefix_of_prefix_length_le hql hml hle).eq_of_length he
    · rintro ⟨hm, hindent, hspells, hlongest⟩
      have hml : m.prompt.primary <+: trimStart l := ⟨m.statement, hspells.symm⟩
      refine ⟨⟨(h _).2 hm, hindent, ?_⟩, fun q hq hql => ?_⟩
      · rw [← hspells, hindent, indent_append_trimStart]
      · by_cases hne : q = m.prompt
        · rw [hne]
          exact Nat.le_refl _
        · have hlt := hlongest q ((h q).1 hq) hql hne
          exact (byteSize_le_iff_of_isPrefix hql hml).2 (Nat.le_of_lt hlt)
  · rw [primary?_eq_none]
    exact forall_congr' fun p => by rw [h p]

/-- Two tables with the same prompts look every line up in the same way. -/
lemma LooksUp.primary?_eq {table table' : Table} {ps ps' : List Prompt} (h : table.LooksUp ps)
    (h' : table'.LooksUp ps') (hp : ps'.Perm ps) : table'.primary? = table.primary? := by
  funext l
  cases hm : table.primary? l with
  | none =>
    refine (h'.eq_none l).2 fun p hps => ?_
    exact (h.eq_none l).1 hm p (hp.mem_iff.1 hps)
  | some m =>
    obtain ⟨hmem, hindent, hspells, hlongest⟩ := (h.eq_some l m).1 hm
    refine (h'.eq_some l m).2 ⟨hp.mem_iff.2 hmem, hindent, hspells, fun q hq => ?_⟩
    exact hlongest q (hp.mem_iff.1 hq)

lemma exists_ofList {ps : List Prompt} (h : Fit ps) : ∃ table, ofList ps = .ok table := by
  obtain ⟨hproper, hpairs⟩ := fit_iff.1 h
  have hfault : fault? [] ps = none := fault?_eq_none.2 ⟨hproper, by simp, hpairs⟩
  unfold ofList
  split
  · rename_i e he
    rw [hfault] at he
    cases he
  · exact ⟨_, rfl⟩

lemma of_ofList {ps : List Prompt} {table : Table} (h : ofList ps = .ok table) :
    Fit ps ∧ table.prompts = ranked ps := by
  unfold ofList at h
  split at h
  · cases h
  · rename_i hfault
    cases h
    obtain ⟨hproper, -, hpairs⟩ := fault?_eq_none.1 hfault
    exact ⟨fit_iff.2 ⟨hproper, hpairs⟩, rfl⟩

lemma mem_prompts_of_ofList {ps : List Prompt} {table : Table} (h : ofList ps = .ok table)
    (p : Prompt) : p ∈ table.prompts ↔ p ∈ ps := by
  rw [(of_ofList h).2]
  exact (ranked_perm ps).mem_iff

end Table

end Exemplar.Prompt

namespace Exemplar.Example
open Text Prompt

section
variable {table table' : Table} (h : table'.primary? = table.primary?)
include h

lemma places_of_primary?_eq (line : Nat) (ls : List Text) :
    places table' line ls = places table line ls := by
  induction ls generalizing line with
  | nil => rfl
  | cons l ls ih =>
    rw [places, places, h, ih]

/-- A text is read in the same way by tables that look lines up in the same way. -/
theorem parse_of_primary?_eq (first : Nat) (t : Text) :
    parse table' first t = parse table first t := by
  have hcontinuation : continuation? table' = continuation? table := by
    funext p indent l
    rw [continuation?, continuation?, h]
  have houtput : output? table' = output? table := by
    funext indent l
    rw [output?, output?, h]
  rw [parse_eq_map, parse_eq_map, places_of_primary?_eq h]
  refine List.map_congr_left fun q _ => ?_
  unfold Place.item Place.more Place.expected
  rw [hcontinuation, houtput]

end

end Exemplar.Example

namespace Exemplar.Prompt.Table
open Text

/-- A list of prompts makes a table exactly when no marker is blank and no language or primary
marker is there twice. The table finds the longest marker on every line. Another order of the
prompts makes a table with which every line and every text is read the same, and a selection of
languages finds the longest marker among their prompts. -/
theorem ofList_order_independent (ps : List Prompt) :
    ((∃ table, ofList ps = .ok table) ↔ Fit ps) ∧
    ∀ table, ofList ps = .ok table →
      table.LooksUp ps ∧
      (∀ ps', ps'.Perm ps → ∃ table', ofList ps' = .ok table' ∧
        (∀ l, table'.primary? l = table.primary? l) ∧
        ∀ first t, Example.parse table' first t = Example.parse table first t) ∧
      ∀ ls, (∀ l ∈ ls, l ∈ table.languages) → ∃ table', table.select ls = .ok table' ∧
        table'.LooksUp (ps.filter fun p => p.language ∈ ls) := by
  refine ⟨⟨fun ⟨table, h⟩ => (of_ofList h).1, exists_ofList⟩, fun table htable => ?_⟩
  have hlooks := looksUp (mem_prompts_of_ofList htable)
  refine ⟨hlooks, fun ps' hperm => ?_, fun ls hls => ?_⟩
  · obtain ⟨table', htable'⟩ := exists_ofList ((of_ofList htable).1.perm hperm)
    have hlooks' := looksUp (mem_prompts_of_ofList htable')
    have hsame := hlooks.primary?_eq hlooks' hperm
    exact ⟨table', htable', congrFun hsame, Example.parse_of_primary?_eq hsame⟩
  · obtain ⟨table', hselect, hrestricts⟩ := exists_select hls
    refine ⟨table', hselect, looksUp fun p => ?_⟩
    rw [hrestricts p, mem_prompts_of_ofList htable p]
    simp

/-- The shorter marker begins the longer one and is given first. -/
theorem ofList_order_independent_nested :
    let short : Prompt := ⟨"short", "> ".toList, ". ".toList⟩
    let long : Prompt := ⟨"long", ">> ".toList, ".. ".toList⟩
    ∃ table, ofList [short, long] = .ok table ∧
      table.primary? " >> x".toList = some ⟨long, " ".toList, "x".toList⟩ ∧
      [long, short].Perm [short, long] ∧
      (∃ table', ofList [long, short] = .ok table' ∧
        table'.primary? " >> x".toList = some ⟨long, " ".toList, "x".toList⟩) ∧
      (∀ l ∈ ["short", "short"], l ∈ table.languages) ∧
      ∃ table', table.select ["short", "short"] = .ok table' ∧
        table'.primary? " > x".toList = some ⟨short, " ".toList, "x".toList⟩ ∧
        table'.primary? " >> x".toList = none := by
  intro short long
  obtain ⟨hiff, hall⟩ := ofList_order_independent [short, long]
  obtain ⟨table, htable⟩ := hiff.2 ⟨by decide, by decide, by decide, by decide⟩
  obtain ⟨hlooks, hperm, hselect⟩ := hall table htable
  have hlong : table.primary? " >> x".toList = some ⟨long, " ".toList, "x".toList⟩ :=
    (hlooks.eq_some _ _).2 ⟨by decide, by decide, by decide, by decide⟩
  have hswap : [long, short].Perm [short, long] := .swap short long []
  have hlanguages : ∀ l ∈ ["short", "short"], l ∈ table.languages := by
    rw [languages, (of_ofList htable).2]
    decide
  obtain ⟨table', htable', hsame, -⟩ := hperm _ hswap
  obtain ⟨selected, hselected, hlooks'⟩ := hselect _ hlanguages
  refine ⟨table, htable, hlong, hswap, ⟨table', htable', (hsame _).trans hlong⟩, hlanguages,
    selected, hselected, ?_, ?_⟩
  · exact (hlooks'.eq_some _ _).2 ⟨by decide, by decide, by decide, by decide⟩
  · exact (hlooks'.eq_none _).2 (by decide)

end Exemplar.Prompt.Table
