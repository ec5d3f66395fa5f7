import Exemplar.Proofs.Example.Blocks

/-!
# The items of a text

The items of a text are those of the lines that begin an example, one for each and in the
order of the lines. An item is made from its line and the block below it alone. It is an
example unless the statement at the prompt is blank or a token of a statement is no flag.
-/
namespace Exemplar.Example
open Text Prompt

/-- A line that begins an example: its number, what it opens with, and the lines below. -/
structure Place where
  line : Nat
  opening : Table.Primary
  below : List Text

/-- The lines that begin an example, in order. -/
def places (table : Table) (line : Nat) : List Text → List Place
  | [] => []
  | l :: ls =>
    match table.primary? l with
    | some m => ⟨line, m, ls⟩ :: places table (line + 1) ls
    | none => places table (line + 1) ls

lemma places_of_none {table : Table} {l : Text} (h : table.primary? l = none) (line : Nat)
    (ls : List Text) : places table line (l :: ls) = places table (line + 1) ls := by
  rw [places, h]

lemma places_of_some {table : Table} {l : Text} {m : Table.Primary}
    (h : table.primary? l = some m) (line : Nat) (ls : List Text) :
    places table line (l :: ls) = ⟨line, m, ls⟩ :: places table (line + 1) ls := by
  rw [places, h]

lemma mem_places_cons {table : Table} {line : Nat} {l : Text} {ls : List Text} {q : Place} :
    q ∈ places table line (l :: ls) ↔
      (∃ m, table.primary? l = some m ∧ q = ⟨line, m, ls⟩) ∨ q ∈ places table (line + 1) ls := by
  cases hm : table.primary? l with
  | none => simp [places_of_none hm]
  | some m => simp [places_of_some hm]

/-- Where the prompt stands among the lines of a text. -/
lemma exists_line_of_mem_places {table : Table} {line : Nat} {ls : List Text} {q : Place}
    (h : q ∈ places table line ls) :
    ∃ pre l, ls = pre ++ l :: q.below ∧ table.primary? l = some q.opening := by
  induction ls generalizing line with
  | nil => simp [places] at h
  | cons l ls ih =>
    rcases mem_places_cons.1 h with ⟨m, hm, rfl⟩ | h
    · exact ⟨[], l, rfl, hm⟩
    · obtain ⟨pre, l', hls, hm'⟩ := ih h
      exact ⟨l :: pre, l', by rw [hls, List.cons_append], hm'⟩

namespace Place

/-- The statements on the lines that continue the example. -/
def more (table : Table) (q : Place) : List Text :=
  (takeMap (continuation? table q.opening.prompt q.opening.indent) q.below).1

def expected (table : Table) (q : Place) : List Text :=
  (takeMap (output? table q.opening.indent)
    (takeMap (continuation? table q.opening.prompt q.opening.indent) q.below).2).1

/-- The lines behind the block. -/
def rest (table : Table) (q : Place) : List Text :=
  (takeMap (output? table q.opening.indent)
    (takeMap (continuation? table q.opening.prompt q.opening.indent) q.below).2).2

def item (table : Table) (q : Place) : Item :=
  Example.item q.opening q.line (q.more table) (q.expected table)

lemma block (table : Table) {q : Place} (hp : q.opening.prompt.Proper) :
    Block table q.opening q.below (q.more table) (q.expected table) (q.rest table) :=
  block_of_takeMap hp q.below

end Place

/-- Any block below a place is the one that its item is made of. -/
lemma Block.item_eq {table : Table} {q : Place} {more out rest : List Text}
    (hp : q.opening.prompt.Proper) (h : Block table q.opening q.below more out rest) :
    q.item table = Example.item q.opening q.line more out := by
  obtain ⟨behind, hc, ho⟩ := h
  have hmore := hc.takeMap_eq fun _ _ => continuation?_eq_some hp
  have hout := ho.takeMap_eq fun _ _ => output?_eq_some
  rw [Place.item, Place.more, Place.expected, hmore]
  simp only
  rw [hout]

/-- Lines that begin no example leave the places behind them as they are. -/
lemma places_append {table : Table} {line : Nat} {taken rest : List Text}
    (h : ∀ l ∈ taken, table.primary? l = none) :
    places table line (taken ++ rest) = places table (line + taken.length) rest := by
  induction taken generalizing line with
  | nil => rfl
  | cons l taken ih =>
    have hl : table.primary? l = none := h l (by simp)
    rw [List.cons_append, places, hl]
    rw [ih fun m hm => h m (by simp [hm]), List.length_cons, Nat.add_right_comm, Nat.add_assoc]

lemma itemsFrom_eq {table : Table} {line : Nat} {ls : List Text} :
    Reader.itemsFrom table line ls =
      match Reader.nextFrom table line ls with
      | none => []
      | some (i, line', ls') => i :: Reader.itemsFrom table line' ls' := by
  rw [Reader.itemsFrom]
  split <;> simp [*]

/-- The reader stops at the places only and makes one item at each. -/
theorem itemsFrom_eq_map (table : Table) (line : Nat) (ls : List Text) :
    Reader.itemsFrom table line ls = (places table line ls).map (Place.item table) := by
  induction hn : ls.length using Nat.strong_induction_on generalizing line ls with
  | _ n ih =>
    cases ls with
    | nil => rw [itemsFrom_eq]; rfl
    | cons l ls =>
      cases hm : table.primary? l with
      | none =>
        have hskip : Reader.itemsFrom table line (l :: ls) =
            Reader.itemsFrom table (line + 1) ls := by
          rw [itemsFrom_eq, itemsFrom_eq, Reader.nextFrom, hm]
        rw [hskip, ih ls.length (by simp [← hn]) (line + 1) ls rfl, places, hm]
      | some m =>
        let q : Place := ⟨line, m, ls⟩
        have hp : q.opening.prompt.Proper := (Table.opens_of_primary? hm).proper
        obtain ⟨taken, hb, hlen, hno⟩ := (Place.block table hp).exists_taken
        have hnext : Reader.nextFrom table line (l :: ls) =
            some (q.item table, line + 1 + (q.more table).length + (q.expected table).length,
              q.rest table) := by
          rw [Reader.nextFrom, hm]
          rfl
        have hshort : (q.rest table).length < n := by
          have := congrArg List.length hb
          rw [List.length_append] at this
          change ls.length = _ at this
          rw [← hn, List.length_cons]
          omega
        have hplaces : places table line (l :: ls) =
            q :: places table (line + 1 + taken.length) (q.rest table) := by
          rw [places_of_some hm, ← places_append hno, ← hb]
        rw [itemsFrom_eq, hnext, hplaces, List.map_cons]
        simp only
        rw [ih _ hshort _ _ rfl, hlen, Nat.add_assoc (line + 1)]

/-- The indices of the lines that begin an example, in order. -/
def openings (table : Table) (ls : List Text) : List Nat :=
  (List.range ls.length).filter fun i => (ls[i]?.bind table.primary?).isSome

lemma mem_openings {table : Table} {ls : List Text} {i : Nat} :
    i ∈ openings table ls ↔ ∃ l m, ls[i]? = some l ∧ table.primary? l = some m := by
  simp only [openings, List.mem_filter, List.mem_range, Option.isSome_iff_exists,
    Option.bind_eq_some_iff]
  constructor
  · rintro ⟨-, m, l, hl, hm⟩
    exact ⟨l, m, hl, hm⟩
  · rintro ⟨l, m, hl, hm⟩
    exact ⟨(List.getElem?_eq_some_iff.1 hl).1, m, l, hl, hm⟩

lemma openings_cons (table : Table) (l : Text) (ls : List Text) :
    openings table (l :: ls) =
      (if (table.primary? l).isSome then [0] else []) ++ (openings table ls).map (· + 1) := by
  rw [openings, List.length_cons, List.range_succ_eq_map, List.filter_cons, List.filter_map]
  simp only [List.getElem?_cons_zero, Option.bind_some]
  split <;> rfl

/-- The places are the openings with what is found there. -/
lemma openings_places (table : Table) (line : Nat) (ls : List Text) :
    List.Forall₂ (fun i q => (∃ l, ls[i]? = some l ∧ table.primary? l = some q.opening) ∧
        q.line = line + i ∧ q.below = ls.drop (i + 1))
      (openings table ls) (places table line ls) := by
  induction ls generalizing line with
  | nil => exact .nil
  | cons l ls ih =>
    have hrest : List.Forall₂ (fun i q =>
          (∃ l', (l :: ls)[i]? = some l' ∧ table.primary? l' = some q.opening) ∧
          q.line = line + i ∧ q.below = (l :: ls).drop (i + 1))
        ((openings table ls).map (· + 1)) (places table (line + 1) ls) := by
      rw [List.forall₂_map_left_iff]
      refine (ih (line + 1)).imp ?_
      rintro i q ⟨hl, hline, hbelow⟩
      exact ⟨by simpa using hl, by omega, by simpa using hbelow⟩
    rw [openings_cons]
    cases hm : table.primary? l with
    | none =>
      rw [places_of_none hm]
      exact hrest
    | some m =>
      rw [places_of_some hm]
      exact .cons ⟨⟨l, rfl, hm⟩, rfl, rfl⟩ hrest

/-- What a line with the opening `m` and a block of the statements `more` and the output
`out` makes. The prompt may have no statement, or some statement may have a bad token, and
then the first such token is named; otherwise the lines are an example. -/
structure Makes (m : Table.Primary) (line : Nat) (more out : List Text) (i : Item) : Prop where
  empty_iff : i = .error (.emptyStatement line m.prompt.language) ↔ allBlank m.statement = true
  invalid_iff : (∃ option, i = .error (.invalidOption line option)) ↔
    allBlank m.statement = false ∧ Options.HasBadToken (m.statement :: more)
  option_eq : ∀ option, i = .error (.invalidOption line option) →
    Options.firstBad? ((m.statement :: more).flatMap Options.lineTokens) = some option
  ok_iff : (∃ e, i = .ok e) ↔
    allBlank m.statement = false ∧ ¬ Options.HasBadToken (m.statement :: more)
  example_eq : ∀ e, i = .ok e →
    e.language = m.prompt.language ∧ e.statements = m.statement :: more ∧ e.expected = out ∧
      e.line = line ∧ e.indent = m.indent ∧
      Options.ofStatements (m.statement :: more) = .ok e.options

theorem item_makes (m : Table.Primary) (line : Nat) (more out : List Text) :
    Makes m line more out (Example.item m line more out) := by
  cases hb : allBlank m.statement with
  | true =>
    have hi : Example.item m line more out =
        .error (.emptyStatement line m.prompt.language) := by simp [Example.item, hb]
    rw [hi]
    constructor <;> simp [hb]
  | false =>
    cases ho : Options.ofStatements (m.statement :: more) with
    | error option =>
      have hi : Example.item m line more out = .error (.invalidOption line option) := by
        simp [Example.item, hb, ho]
      have hbad := Options.hasBadToken_of_error ho
      have hfirst := Options.ofStatements_eq_error.1 ho
      rw [hi]
      refine ⟨by simp [hb], by simp [hb, hbad], ?_, by simp [hb, hbad], by simp⟩
      intro option' he
      cases he
      exact hfirst
    | ok options =>
      have hi : Example.item m line more out =
          .ok ⟨m.prompt.language, m.statement :: more, out, line, m.indent, options⟩ := by
        simp [Example.item, hb, ho]
      have hgood := Options.not_hasBadToken_of_ok ho
      rw [hi]
      constructor <;> simp [hb, hgood, ho]

lemma Place.makes (q : Place) (table : Table) :
    Makes q.opening q.line (q.more table) (q.expected table) (q.item table) :=
  item_makes ..

lemma parse_eq_map (table : Table) (first : Nat) (t : Text) :
    parse table first t = (places table first (lines t)).map (Place.item table) :=
  itemsFrom_eq_map table first (lines t)

lemma mem_parse {table : Table} {first : Nat} {t : Text} {x : Item} :
    x ∈ parse table first t ↔ ∃ q ∈ places table first (lines t), q.item table = x := by
  rw [parse_eq_map, List.mem_map]

/-- The items of a text stand one to one and in order with the lines that begin an example.
Such a line is indentation, marker and statement, and its item has its number. Below it
come the longest run of lines that continue the statement and then the longest run of
output. The item is made of these lines alone, and none of them begins another example. -/
theorem parse_blocks (table : Table) (first : Nat) (t : Text) :
    List.Forall₂ (fun i x => ∃ l m more out rest,
        (lines t)[i]? = some l ∧ table.primary? l = some m ∧
        l = m.indent ++ (m.prompt.primary ++ m.statement) ∧
        Block table m ((lines t).drop (i + 1)) more out rest ∧
        Makes m (first + i) more out x ∧
        ∀ j ∈ openings table (lines t), i < j → i + more.length + out.length < j)
      (openings table (lines t)) (parse table first t) := by
  have hparse : parse table first t = (places table first (lines t)).map (Place.item table) :=
    itemsFrom_eq_map table first (lines t)
  rw [hparse, List.forall₂_map_right_iff]
  refine (openings_places table first (lines t)).imp ?_
  rintro i q ⟨⟨l, hl, hm⟩, hline, hbelow⟩
  have hopens := Table.opens_of_primary? hm
  have hblock := Place.block table hopens.proper
  obtain ⟨taken, hb, hlen, hno⟩ := hblock.exists_taken
  rw [hbelow] at hblock hb
  refine ⟨l, q.opening, _, _, _, hl, hm, hopens.spells, hblock, ?_, ?_⟩
  · rw [← hline]
    exact item_makes _ _ _ _
  · intro j hj hij
    -- a line inside the block would be one of the lines taken
    by_contra hle
    obtain ⟨l', m', hl', hm'⟩ := mem_openings.1 hj
    have hlt : j - (i + 1) < taken.length := by omega
    have hget : taken[j - (i + 1)]? = some l' := by
      rw [← List.getElem?_append_left hlt, ← hb, List.getElem?_drop]
      rw [show i + 1 + (j - (i + 1)) = j by omega]
      exact hl'
    have hnone := hno l' (List.mem_of_getElem? hget)
    rw [hnone] at hm'
    cases hm'

end Exemplar.Example
