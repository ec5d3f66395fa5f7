import Exemplar.Proofs.Example.Position
import Exemplar.Proofs.Prompt.Selection

/-!
# Reading some languages only

To a reader that knows some of the languages only, the prompts of the others are ordinary
lines. It finds the same examples as a reader that knows all of them wherever no such line
stands among the lines of the example or, with its indentation, below them. Where one does, the
example goes on over it.
-/
namespace Exemplar

lemma toOption_eq_some {ε α : Type} {x : Except ε α} {a : α} :
    x.toOption = some a ↔ x = .ok a := by
  cases x <;> simp [Except.toOption]

/-- A function that has all values of another one takes what that one takes, and stops with it
unless it has a value where that one has none. -/
lemma takeMap_cases {α β : Type} {f g : α → Option β} (h : ∀ a b, f a = some b → g a = some b)
    (as : List α) :
    takeMap f as = takeMap g as ∨
      (takeMap f as).1 <+: (takeMap g as).1 ∧
        ∃ a rest b, (takeMap f as).2 = a :: rest ∧ f a = none ∧ g a = some b := by
  induction as with
  | nil => exact .inl rfl
  | cons a as ih =>
    cases hf : f a with
    | some b =>
      have hg := h a b hf
      rcases ih with he | ⟨hpre, hstop⟩
      · left
        simp only [takeMap, hf, hg, he]
      · right
        simp only [takeMap, hf, hg]
        exact ⟨List.cons_prefix_cons.2 ⟨rfl, hpre⟩, hstop⟩
    | none =>
      cases hg : g a with
      | some b =>
        right
        simp only [takeMap, hf, hg]
        exact ⟨List.nil_prefix, a, as, b, rfl, hf, hg⟩
      | none =>
        left
        simp only [takeMap, hf, hg]

namespace Example
open Text Prompt

/-- A block for one table is a block for another table that finds no beginning in it and goes
on no further. -/
lemma Block.of_table {t₁ t₂ : Table} {m : Table.Primary} {below more out rest : List Text}
    (h : Block t₁ m below more out rest)
    (hinside : ∀ l ∈ below.take (more.length + out.length), t₂.primary? l = none)
    (hrest : ∀ l ∈ rest.head?, m.indent <+: l → t₂.primary? l = none → t₁.primary? l = none) :
    Block t₂ m below more out rest := by
  obtain ⟨behind, ⟨⟨cs, rfl, hc⟩, hcmax⟩, ⟨os, rfl, ho⟩, homax⟩ := h
  have htake : (cs ++ (os ++ rest)).take (more.length + out.length) = cs ++ os := by
    rw [← List.append_assoc]
    exact List.take_left' (by rw [List.length_append, hc.length_eq, ho.length_eq])
  rw [htake] at hinside
  have hcs : ∀ l ∈ cs, t₂.primary? l = none := fun l hl => hinside l (List.mem_append_left _ hl)
  have hos : ∀ l ∈ os, t₂.primary? l = none := fun l hl => hinside l (List.mem_append_right _ hl)
  refine ⟨os ++ rest, ⟨⟨cs, rfl, ?_⟩, ?_⟩, ⟨os, rfl, ?_⟩, ?_⟩
  · exact ((List.forall₂_and_left cs more).2 ⟨hcs, hc⟩).imp fun l s ⟨hn, hs⟩ => ⟨hn, hs.2⟩
  · rintro l hl s ⟨hn, u, hlu, hu⟩
    have hn₁ : t₁.primary? l = none := by
      cases os with
      | nil => exact hrest l hl ⟨u, hlu.symm⟩ hn
      | cons o os =>
        obtain rfl : o = l := by simpa using hl
        exact forall_left_of_forall₂ ho (fun _ _ h => h.1) o (by simp)
    exact hcmax l hl s ⟨hn₁, u, hlu, hu⟩
  · exact ((List.forall₂_and_left os out).2 ⟨hos, ho⟩).imp fun l o ⟨hn, hl⟩ => ⟨hn, hl.2⟩
  · rintro l hl o ⟨hn, hb, hlo⟩
    exact homax l hl o ⟨hrest l hl ⟨o, hlo.symm⟩ hn, hb, hlo⟩

/-- No line of the example begins one of a language that is none of `langs`, nor does the line
below it, if that has its indentation. The lines are those of a text from the number `first`. -/
def undisturbed (table : Table) (langs : List String) (first : Nat) (ls : List Text)
    (e : Example) : Bool :=
  let there := ls.drop (e.line - first)
  let size := e.statements.length + e.expected.length
  (there.take size).all (fun l => !table.beginsOther langs l) &&
    (there.drop size).head?.all fun l => !(startsWith l e.indent && table.beginsOther langs l)

section
variable {table table' : Table} {langs : List String}

/-- Lines above an example have no part in it. -/
lemma undisturbed_cons {first : Nat} {l : Text} {ls : List Text} {e : Example}
    (h : first < e.line) :
    undisturbed table langs first (l :: ls) e = undisturbed table langs (first + 1) ls e := by
  have hdrop : (l :: ls).drop (e.line - first) = ls.drop (e.line - (first + 1)) := by
    have hsub : e.line - first = e.line - (first + 1) + 1 := by omega
    rw [hsub, List.drop_succ_cons]
  unfold undisturbed
  rw [hdrop]

/-- What is looked at to see that the example of a place is not disturbed. -/
lemma Place.undisturbed_iff {t : Table} {q : Place} {l : Text} {e : Example}
    (hp : q.opening.prompt.Proper) (he : q.item t = .ok e) :
    undisturbed table langs q.line (l :: q.below) e = true ↔
      table.beginsOther langs l = false ∧
        (∀ k ∈ q.below.take ((q.more t).length + (q.expected t).length),
          table.beginsOther langs k = false) ∧
        ∀ k ∈ (q.rest t).head?, q.opening.indent <+: k → table.beginsOther langs k = false := by
  obtain ⟨-, hstatements, hexpected, hline, hindent, -⟩ := (q.makes t).example_eq e he
  obtain ⟨taken, hbelow, hlen, -⟩ := (Place.block t hp).exists_taken
  have hrest : q.below.drop ((q.more t).length + (q.expected t).length) = q.rest t := by
    conv_lhs => rw [hbelow]
    exact List.drop_left' hlen
  have hsize : e.statements.length + e.expected.length =
      (q.more t).length + (q.expected t).length + 1 := by
    rw [hstatements, hexpected, List.length_cons]
    omega
  have hstarts : ∀ k, startsWith k q.opening.indent = true ↔ q.opening.indent <+: k := by
    intro k
    rw [startsWith_iff]
    exact exists_congr fun r => eq_comm
  unfold undisturbed
  simp only [hline, hindent, hsize, Nat.sub_self, List.drop_zero, List.take_succ_cons,
    List.drop_succ_cons, hrest, Bool.and_eq_true, List.all_eq_true, List.mem_cons,
    forall_eq_or_imp, Bool.not_eq_true', Option.all_eq_true, ← Bool.not_eq_true, hstarts,
    and_assoc, not_and, Option.mem_def]

/-- Where nothing disturbs it, an example of a selected language is read by both tables or by
neither. -/
lemma Place.item_iff (hr : table'.Restricts table langs) {q : Place} {l : Text} {e : Example}
    (hm : table.primary? l = some q.opening) :
    q.item table = .ok e ∧ undisturbed table langs q.line (l :: q.below) e = true ↔
      q.item table' = .ok e ∧ undisturbed table langs q.line (l :: q.below) e = true := by
  have hp := (Table.opens_of_primary? hm).proper
  constructor
  · rintro ⟨he, hu⟩
    obtain ⟨-, -, hbehind⟩ := (Place.undisturbed_iff hp he).1 hu
    obtain ⟨taken, hbelow, hlen, hno⟩ := (Place.block table hp).exists_taken
    have hblock : Block table' q.opening q.below (q.more table) (q.expected table)
        (q.rest table) := by
      refine (Place.block table hp).of_table (fun k hk => ?_) fun k hk hi hn => ?_
      · conv at hk => rw [hbelow]
        rw [List.take_left' hlen] at hk
        exact hr.primary?_eq_none (hno k hk)
      · rw [← hr.primary?_eq (hbehind k hk hi)]
        exact hn
    refine ⟨?_, hu⟩
    rw [hblock.item_eq hp]
    exact he
  · rintro ⟨he, hu⟩
    obtain ⟨-, hinside, -⟩ := (Place.undisturbed_iff hp he).1 hu
    obtain ⟨taken, hbelow, hlen, hno⟩ := (Place.block table' hp).exists_taken
    have hblock : Block table q.opening q.below (q.more table') (q.expected table')
        (q.rest table') := by
      refine (Place.block table' hp).of_table (fun k hk => ?_) fun k _ _ hn => ?_
      · rw [← hr.primary?_eq (hinside k hk)]
        conv at hk => rw [hbelow]
        rw [List.take_left' hlen] at hk
        exact hno k hk
      · exact hr.primary?_eq_none hn
    refine ⟨?_, hu⟩
    rw [hblock.item_eq hp]
    exact he

/-- The example of a place, if there is one and nothing disturbs it. -/
def Place.calm? (table : Table) (langs : List String) (first : Nat) (ls : List Text) (t : Table)
    (q : Place) : Option Example :=
  (q.item t).toOption.filter (undisturbed table langs first ls)

lemma Place.calm?_eq_some {first : Nat} {ls : List Text} {t : Table} {q : Place} {e : Example} :
    q.calm? table langs first ls t = some e ↔
      q.item t = .ok e ∧ undisturbed table langs first ls e = true := by
  rw [Place.calm?, Option.filter_eq_some_iff, toOption_eq_some]

lemma Place.language_of_calm? {first : Nat} {ls : List Text} {t : Table} {q : Place}
    {e : Example} (h : q.calm? table langs first ls t = some e) :
    e.language = q.opening.prompt.language :=
  ((q.makes t).example_eq e (calm?_eq_some.1 h).1).1

/-- On a prompt line that both tables know they find the same. -/
lemma Place.calm?_restricted (hr : table'.Restricts table langs) {q : Place} {l : Text}
    (hm : table.primary? l = some q.opening) :
    q.calm? table langs q.line (l :: q.below) table' =
      q.calm? table langs q.line (l :: q.below) table := by
  ext e
  rw [calm?_eq_some, calm?_eq_some]
  exact (item_iff hr hm).symm

/-- Lines above a place do not disturb it. -/
lemma Place.calm?_cons {t : Table} {line : Nat} {l : Text} {ls : List Text} {q : Place}
    (hq : q ∈ places t (line + 1) ls) :
    q.calm? table langs line (l :: ls) t = q.calm? table langs (line + 1) ls t := by
  ext e
  rw [calm?_eq_some, calm?_eq_some]
  refine and_congr_right fun he => ?_
  obtain ⟨-, -, -, hline, -⟩ := (q.makes t).example_eq e he
  have hle := le_line_of_mem_places hq
  rw [undisturbed_cons (by omega)]

/-- An example on a prompt line of another language is disturbed. -/
lemma Place.calm?_eq_none {t : Table} {q : Place} {l : Text} (hm : t.primary? l = some q.opening)
    (hl : table.beginsOther langs l = true) :
    q.calm? table langs q.line (l :: q.below) t = none := by
  cases hc : q.calm? table langs q.line (l :: q.below) t with
  | none => rfl
  | some e =>
    obtain ⟨he, hu⟩ := calm?_eq_some.1 hc
    have hno := ((undisturbed_iff (Table.opens_of_primary? hm).proper he).1 hu).1
    rw [hl] at hno
    cases hno

/-- The undisturbed examples of a restricted table are those of the full one in the selected
languages. -/
theorem filterMap_places (hr : table'.Restricts table langs) (line : Nat) (ls : List Text) :
    (places table' line ls).filterMap (Place.calm? table langs line ls table') =
      ((places table line ls).filterMap (Place.calm? table langs line ls table)).filter
        fun e => decide (e.language ∈ langs) := by
  induction ls generalizing line with
  | nil => rfl
  | cons l ls ih =>
    have htail : ∀ t : Table,
        (places t (line + 1) ls).filterMap (Place.calm? table langs line (l :: ls) t) =
          (places t (line + 1) ls).filterMap (Place.calm? table langs (line + 1) ls t) :=
      fun t => List.filterMap_congr fun q hq => Place.calm?_cons hq
    have hrest := ih (line + 1)
    rw [← htail, ← htail] at hrest
    cases hm : table.primary? l with
    | none =>
      rw [places_of_none (hr.primary?_eq_none hm), places_of_none hm]
      exact hrest
    | some m =>
      let q : Place := ⟨line, m, ls⟩
      have hplaces : places table line (l :: ls) = q :: places table (line + 1) ls :=
        places_of_some hm line ls
      rw [hplaces]
      by_cases hl : m.prompt.language ∈ langs
      · -- both tables read the line as the same prompt
        have hplaces' : places table' line (l :: ls) = q :: places table' (line + 1) ls :=
          places_of_some (hr.primary?_eq_some hm hl) line ls
        have hhead : q.calm? table langs line (l :: ls) table' =
            q.calm? table langs line (l :: ls) table := Place.calm?_restricted hr (q := q) hm
        rw [hplaces', List.filterMap_cons, List.filterMap_cons, hhead]
        cases hc : q.calm? table langs line (l :: ls) table with
        | none => exact hrest
        | some e =>
          have he : e.language ∈ langs := Place.language_of_calm? hc ▸ hl
          simp only
          rw [List.filter_cons_of_pos (by simpa using he), hrest]
      · -- to the full table the line belongs to another language
        have hother : table.beginsOther langs l = true := by
          rw [Table.beginsOther_of_primary? hm]
          exact decide_eq_true hl
        have hnone : q.calm? table langs line (l :: ls) table = none :=
          Place.calm?_eq_none (q := q) hm hother
        rw [List.filterMap_cons, hnone]
        cases hm' : table'.primary? l with
        | none =>
          rw [places_of_none hm']
          exact hrest
        | some m' =>
          have hnone' : Place.calm? table langs line (l :: ls) table' ⟨line, m', ls⟩ = none :=
            Place.calm?_eq_none (q := ⟨line, m', ls⟩) hm' hother
          rw [places_of_some hm', List.filterMap_cons, hnone']
          exact hrest

/-- The example `e'` stands where `e` stands and begins with all of it: it has the statements
and more output, or more statements if `e` has no output. -/
structure GoesOn (e e' : Example) : Prop where
  language_eq : e'.language = e.language
  line_eq : e'.line = e.line
  indent_eq : e'.indent = e.indent
  lines : e'.statements = e.statements ∧ e.expected <+: e'.expected ∨
    e.expected = [] ∧ e.statements <+: e'.statements

lemma continuation?_of_restricts (hr : table'.Restricts table langs) (p : Prompt)
    (indent : Text) {l s : Text} (h : continuation? table p indent l = some s) :
    continuation? table' p indent l = some s := by
  unfold continuation? at h ⊢
  cases hm : table.primary? l with
  | some m => simp [hm] at h
  | none =>
    rw [hr.primary?_eq_none hm]
    rwa [hm] at h

lemma output?_of_restricts (hr : table'.Restricts table langs) (indent : Text) {l o : Text}
    (h : output? table indent l = some o) : output? table' indent l = some o := by
  obtain ⟨hn, hb, hl⟩ := output?_eq_some.1 h
  exact output?_eq_some.2 ⟨hr.primary?_eq_none hn, hb, hl⟩

/-- Only behind the last line that the full table takes does the restricted one go on. -/
lemma Place.grows (hr : table'.Restricts table langs) (q : Place) :
    q.more table' = q.more table ∧ q.expected table <+: q.expected table' ∨
      q.expected table = [] ∧ q.more table <+: q.more table' := by
  unfold Place.more Place.expected
  rcases takeMap_cases (fun _ _ => continuation?_of_restricts hr q.opening.prompt
      q.opening.indent) q.below with he | ⟨hpre, l, ls, s, hrest, hnone, hsome⟩
  · left
    rw [← he]
    refine ⟨rfl, ?_⟩
    rcases takeMap_cases (fun _ _ => output?_of_restricts hr q.opening.indent)
        (takeMap (continuation? table q.opening.prompt q.opening.indent) q.below).2 with
      he | ⟨hpre, -⟩
    · rw [he]
    · exact hpre
  · right
    refine ⟨?_, hpre⟩
    -- the line is a continuation to the restricted table only, so the full table begins there
    have hl : output? table q.opening.indent l = none := by
      cases hm : table.primary? l with
      | some m => simp [output?, hm]
      | none =>
        unfold continuation? at hnone hsome
        rw [hm] at hnone
        rw [hr.primary?_eq_none hm, hnone] at hsome
        cases hsome
    rw [hrest, takeMap, hl]

lemma Place.more_isPrefix (hr : table'.Restricts table langs) (q : Place) :
    q.more table <+: q.more table' := by
  rcases q.grows hr with ⟨he, -⟩ | ⟨-, hpre⟩
  · rw [he]
  · exact hpre

lemma Place.goesOn (hr : table'.Restricts table langs) {q : Place} {e e' : Example}
    (he : q.item table = .ok e) (he' : q.item table' = .ok e') : GoesOn e e' := by
  obtain ⟨hlang, hs, ho, hline, hindent, -⟩ := (q.makes table).example_eq e he
  obtain ⟨hlang', hs', ho', hline', hindent', -⟩ := (q.makes table').example_eq e' he'
  refine ⟨hlang'.trans hlang.symm, hline'.trans hline.symm, hindent'.trans hindent.symm, ?_⟩
  rw [hs, hs', ho, ho']
  rcases q.grows hr with ⟨hmore, hout⟩ | ⟨hout, hmore⟩
  · exact .inl ⟨by rw [hmore], hout⟩
  · exact .inr ⟨hout, List.cons_prefix_cons.2 ⟨rfl, hmore⟩⟩

/-- Fewer statements have fewer bad tokens. -/
lemma Place.exists_item (hr : table'.Restricts table langs) {q : Place} {e' : Example}
    (he' : q.item table' = .ok e') : ∃ e, q.item table = .ok e := by
  obtain ⟨hb, hbad⟩ := (q.makes table').ok_iff.1 ⟨e', he'⟩
  refine (q.makes table).ok_iff.2 ⟨hb, ?_⟩
  rintro ⟨s, hs, token, htoken⟩
  exact hbad ⟨s, (List.cons_subset_cons _ (q.more_isPrefix hr).subset) hs, token, htoken⟩

/-- An example of the full table can turn into one with a bad token only. -/
lemma Place.item_restricted (table' : Table) {q : Place} {e : Example}
    (he : q.item table = .ok e) : (∃ e', q.item table' = .ok e') ∨
      ∃ option, q.item table' = .error (.invalidOption e.line option) := by
  have hmakes := q.makes table
  have hmakes' := q.makes table'
  have hb := (hmakes.ok_iff.1 ⟨e, he⟩).1
  have hline := (hmakes.example_eq e he).2.2.2.1
  by_cases hbad : Options.HasBadToken (q.opening.statement :: q.more table')
  · right
    rw [hline]
    exact hmakes'.invalid_iff.2 ⟨hb, hbad⟩
  · exact .inl (hmakes'.ok_iff.2 ⟨hb, hbad⟩)

end

/-- A place depends on the table only through what its line opens with. -/
lemma exists_line_of_place {t : Table} {first : Nat} {ls : List Text} {q : Place}
    (h : q ∈ places t first ls) :
    ∃ l, ls[q.line - first]? = some l ∧ t.primary? l = some q.opening ∧
      ∀ t' : Table, t'.primary? l = some q.opening → q ∈ places t' first ls := by
  induction ls generalizing first with
  | nil => simp [places] at h
  | cons k ls ih =>
    rcases mem_places_cons.1 h with ⟨m, hm, rfl⟩ | h
    · exact ⟨k, by simp, hm, fun t' ht' => mem_places_cons.2 (.inl ⟨m, ht', rfl⟩)⟩
    · obtain ⟨l, hl, hm, hother⟩ := ih h
      have hle := le_line_of_mem_places h
      have hsub : q.line - first = q.line - (first + 1) + 1 := by omega
      exact ⟨l, by rw [hsub, List.getElem?_cons_succ, hl], hm,
        fun t' ht' => mem_places_cons.2 (.inr (hother t' ht'))⟩

/-- A table restricted to some of its languages finds, in order, the undisturbed examples that
the full table finds in these languages, and no others. A disturbed example of the restricted
table stands on a prompt line of another language, or it begins with an example of the full
table on the same line; and where the full table finds an example of a selected language the
restricted one finds an example that begins with it, or a bad token behind it. -/
theorem parse_select {table : Table} {langs : List String} (h : ∀ l ∈ langs, l ∈ table.languages)
    (first : Nat) (t : Text) :
    ∃ table', table.select langs = .ok table' ∧
      ((parse table' first t).filterMap Except.toOption).filter
          (undisturbed table langs first (lines t)) =
        ((parse table first t).filterMap Except.toOption).filter (fun e =>
          decide (e.language ∈ langs) && undisturbed table langs first (lines t) e) ∧
      (∀ e', .ok e' ∈ parse table' first t →
        (∃ l, (lines t)[e'.line - first]? = some l ∧ table.beginsOther langs l = true) ∨
          ∃ e, .ok e ∈ parse table first t ∧ GoesOn e e') ∧
      ∀ e, .ok e ∈ parse table first t → e.language ∈ langs →
        (∃ e', .ok e' ∈ parse table' first t ∧ GoesOn e e') ∨
          ∃ option, .error (.invalidOption e.line option) ∈ parse table' first t := by
  obtain ⟨table', hsel, hr⟩ := Table.exists_select h
  refine ⟨table', hsel, ?_, ?_, ?_⟩
  · have hfilter : ∀ t' : Table, ((parse t' first t).filterMap Except.toOption).filter
          (undisturbed table langs first (lines t)) =
        (places t' first (lines t)).filterMap (Place.calm? table langs first (lines t) t') := by
      intro t'
      rw [parse_eq_map, List.filterMap_map, List.filter_filterMap]
      rfl
    rw [← List.filter_filter, hfilter, hfilter, filterMap_places hr]
  · intro e' he'
    obtain ⟨q, hq, hitem'⟩ := mem_parse.1 he'
    obtain ⟨l, hl, hm, hother⟩ := exists_line_of_place hq
    obtain ⟨-, -, -, hline, -⟩ := (q.makes table').example_eq e' hitem'
    cases hb : table.beginsOther langs l with
    | true => exact .inl ⟨l, by rw [hline, hl], hb⟩
    | false =>
      right
      rw [hr.primary?_eq hb] at hm
      obtain ⟨e, hitem⟩ := Place.exists_item hr hitem'
      exact ⟨e, mem_parse.2 ⟨q, hother table hm, hitem⟩, Place.goesOn hr hitem hitem'⟩
  · intro e he hlang
    obtain ⟨q, hq, hitem⟩ := mem_parse.1 he
    obtain ⟨l, hl, hm, hother⟩ := exists_line_of_place hq
    have hlang' := ((q.makes table).example_eq e hitem).1
    rw [hlang'] at hlang
    have hq' := hother table' (hr.primary?_eq_some hm hlang)
    rcases Place.item_restricted table' hitem with ⟨e', he'⟩ | ⟨option, ho⟩
    · exact .inl ⟨e', mem_parse.2 ⟨q, hq', he'⟩, Place.goesOn hr hitem he'⟩
    · exact .inr ⟨option, mem_parse.2 ⟨q, hq', ho⟩⟩

/-- Of two examples in Python the first is disturbed by a prompt of the shell below it. -/
theorem parse_select_python :
    ∃ table', (∀ l ∈ ["python"], l ∈ Table.standard.languages) ∧
      Table.standard.select ["python"] = .ok table' ∧
      ((parse table' 1 ">>> 1\n$ ls\n\n>>> 2\n2\n".toList).filterMap Except.toOption).filter
          (undisturbed .standard ["python"] 1 (lines ">>> 1\n$ ls\n\n>>> 2\n2\n".toList)) =
        [⟨"python", ["2".toList], ["2".toList], 4, [], Options.none⟩] := by
  have hlangs : ∀ l ∈ ["python"], l ∈ Table.standard.languages := by decide
  obtain ⟨table', hsel, heq, -⟩ := parse_select hlangs 1 ">>> 1\n$ ls\n\n>>> 2\n2\n".toList
  refine ⟨table', hlangs, hsel, heq.trans ?_⟩
  decide +kernel

/-- Without the shell the prompt line of the shell is output that is expected in Python. -/
theorem select_changes_expected :
    ∃ table', (∀ l ∈ ["python"], l ∈ Table.standard.languages) ∧
      Table.standard.select ["python"] = .ok table' ∧
      (parse table' 1 ">>> 1\n$ ls\n".toList).filterMap Except.toOption ≠
        ((parse .standard 1 ">>> 1\n$ ls\n".toList).filterMap Except.toOption).filter
          fun e => decide (e.language ∈ ["python"]) :=
  ⟨_, by decide, rfl, by decide +kernel⟩

end Example

end Exemplar
