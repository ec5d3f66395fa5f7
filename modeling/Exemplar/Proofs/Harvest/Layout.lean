import Exemplar.Harvest
import Exemplar.Proofs.Comment.CommentedOut
import Exemplar.Proofs.Comment.LineEnds
import Exemplar.Proofs.Example.Indentation
import Exemplar.Proofs.Example.LineEnds

/-!
# Harvesting texts of another layout

A text that is one comment as a whole and the same text behind markers of line comments hold
the same examples, with the same problems; two spaces more stand in front of the latter. A text
whose lines end in carriage returns and line breaks holds the examples and the problems of the
text with line breaks only, but one carriage return is left over at the end of a run of line
comments.
-/
namespace Exemplar
open Text Prompt

namespace Example

/-- Blank lines begin no example. -/
lemma parse_of_allBlank {t : Text} (h : allBlank t = true) (table : Table) (first : Nat) :
    parse table first t = [] := by
  have hnone : ∀ l ∈ lines t, table.primary? l = none := by
    intro l hl
    have hblank : allBlank l = true :=
      allBlank_iff.2 fun c hc => allBlank_iff.1 h c (subset_of_mem_lines hl hc)
    exact table.primary?_of_allBlank hblank
  have hplaces : places table first (lines t ++ []) = [] := by
    rw [places_append hnone]
    rfl
  rw [List.append_nil] at hplaces
  show Reader.itemsFrom table first (lines t) = []
  rw [itemsFrom_eq_map, hplaces, List.map_nil]

end Example

namespace Harvest
open Comment Example

/-- The items of the blocks of a text, in order. -/
def items (rule : Rule) (table : Table) (t : Text) : List Item :=
  (extract rule t).blocks.flatMap (itemsOf table)

/-- Where the comments of two texts have the same problems and the items of the first are those
of the second with other examples, so are the harvests. -/
lemma ofText_of_items {rule rule' : Rule} {table : Table} {t t' : Text} {f : Example → Example}
    (hitems : items rule table t = (items rule' table t').map (Except.map f))
    (hproblems : (extract rule t).problems = (extract rule' t').problems) :
    (ofText rule table t).examples = (ofText rule' table t').examples.map f ∧
      (ofText rule table t).problems = (ofText rule' table t').problems := by
  have hexample : ∀ x : Item, example? (x.map f) = (example? x).map f := fun x => by cases x <;> rfl
  have hproblem : ∀ x : Item, problem? (x.map f) = problem? x := fun x => by cases x <;> rfl
  constructor
  · show (items rule table t).filterMap example? = ((items rule' table t').filterMap example?).map f
    rw [hitems, List.filterMap_map, List.map_filterMap]
    exact List.filterMap_congr fun x _ => hexample x
  · show (extract rule t).problems.map Problem.comment ++
        ((items rule table t).filterMap problem?).map Problem.anExample = _
    rw [hitems, hproblems, List.filterMap_map]
    congr 2
    exact List.filterMap_congr fun x _ => hproblem x

/-- A text that is one comment is one block, and a blank text holds no items anyway. -/
lemma items_wholeFile {rule : Rule} (hw : rule.wholeFile = true) (table : Table) (t : Text) :
    items rule table t = parse table 1 t ∧ (extract rule t).problems = [] := by
  unfold items
  rw [extract, if_pos hw, extractAll]
  by_cases hb : allBlank t = true
  · rw [if_pos hb, parse_of_allBlank hb]
    exact ⟨rfl, rfl⟩
  · rw [if_neg hb]
    exact ⟨List.flatMap_singleton .., rfl⟩

/-- Lines behind two spaces make the items of the lines, with two spaces more. -/
lemma parse_joinLines {ls : List Text} (hn : ∀ l ∈ ls, '\n' ∉ l) (hr : ∀ l ∈ ls, '\r' ∉ l)
    (table : Table) (first : Nat) :
    parse table first (joinLines (ls.map ([' ', ' '] ++ ·))) =
      (Reader.itemsFrom table first ls).map (Except.map (Example.indented [' ', ' '])) := by
  have hlines : lines (joinLines (ls.map ([' ', ' '] ++ ·))) = ls.map ([' ', ' '] ++ ·) :=
    lines_joinLines_behind (show '\n' ∉ [' '] by decide) hn hr
  show Reader.itemsFrom table first (lines _) = _
  rw [hlines]
  exact itemsFrom_indented (by decide) table first ls

/-- Under every known rule with line comments that are searched, a text that is commented out
has the examples and the problems that it has as a whole. Its examples stand two spaces
further to the right. -/
theorem ofText_commentOut {entry : List String × Rule} (he : entry ∈ Rule.table) {marker : Text}
    (hm : entry.2.lineMarker = some marker) {t : Text} (ht : '\r' ∉ t) {ending : Text}
    (hend : ending = [] ∨ ending = ['\n']) (table : Table) :
    (ofText (entry.2.withSearchable true) table (commentOut marker t ++ ending)).examples =
        (ofText Rule.plain table t).examples.map (Example.indented [' ', ' ']) ∧
      (ofText (entry.2.withSearchable true) table (commentOut marker t ++ ending)).problems =
        (ofText Rule.plain table t).problems := by
  have hled := (Rule.ledBy_of_mem_table he hm).withSearchable true
  have hn : ∀ l ∈ lines t, '\n' ∉ l := fun l hl => newline_not_mem_lines hl
  have hr : ∀ l ∈ lines t, '\r' ∉ l := fun l hl hmem => ht (subset_of_mem_lines hl hmem)
  obtain ⟨hplain, hnone⟩ := items_wholeFile (show Rule.plain.wholeFile = true from rfl) table t
  have hparse : parse table 1 t = Reader.itemsFrom table 1 (lines t) := rfl
  by_cases hls : lines t = []
  · obtain ⟨hblocks, hproblems⟩ := extract_ending hled hend
    have hout : commentOut marker t ++ ending = ending := by rw [commentOut, hls]; rfl
    rw [hout]
    refine ofText_of_items ?_ (by rw [hproblems, hnone])
    rw [items, hblocks, hplain, hparse, hls, itemsFrom_eq]
    rfl
  · obtain ⟨b, hblocks, hline, htext, hproblems⟩ := extract_joinLines hled rfl hls hn hend
    refine ofText_of_items ?_ (by rw [commentOut, hproblems, hnone])
    have hitems : itemsOf table b = parse table 1 (joinLines ((lines t).map ([' ', ' '] ++ ·))) := by
      rw [itemsOf, hline, htext]
    rw [items, commentOut, hblocks, hplain, hparse, List.flatMap_singleton, hitems]
    exact parse_joinLines hn hr table 1

/-- The lines hold an opener of a block, the marker itself and nothing. -/
theorem ofText_commentOut_slash :
    ∃ entry marker t, entry ∈ Rule.table ∧ entry.2 = Rule.slash ∧
      entry.2.lineMarker = some marker ∧ t = "$ ls /*\n// x\n\n  >>> 1\n  1".toList ∧ '\r' ∉ t ∧
      commentOut marker t = "// $ ls /*\n// // x\n// \n//   >>> 1\n//   1".toList ∧
      (ofText (entry.2.withSearchable true) .standard (commentOut marker t ++ ['\n'])).examples =
        [⟨"shell", ["ls /*".toList], ["// x".toList], 1, "  ".toList, Options.none⟩,
          ⟨"python", ["1".toList], ["1".toList], 4, "    ".toList, Options.none⟩] := by
  let entry : List String × Rule :=
    (["c", "h", "cc", "cpp", "cxx", "hpp", "hh", "js", "mjs", "cjs", "java", "go", "php"], .slash)
  have he : entry ∈ Rule.table := by decide
  have ht : '\r' ∉ "$ ls /*\n// x\n\n  >>> 1\n  1".toList := by decide
  have hm : entry.2.lineMarker = some "//".toList := rfl
  obtain ⟨hexamples, -⟩ := ofText_commentOut he hm ht (.inr rfl) .standard
  refine ⟨entry, "//".toList, _, he, rfl, rfl, rfl, ht, by decide, hexamples.trans ?_⟩
  decide +kernel

/-- The example ends on the last line of a run of line comments that is looked for examples. -/
def EndsRun (rule : Rule) (t : Text) (e : Example) : Prop :=
  rule.searchable = true ∧ ∃ c ∈ scan rule t, (∃ marker, c.form = .run marker) ∧
    e.endLine = c.line + newlines c.body

/-- The item of a text with carriage returns is `x'` in place of `x`: the same one, or one that
has a carriage return at its end because it ends where a run does. -/
def MayReturn (rule : Rule) (t : Text) (x x' : Item) : Prop :=
  x' = x ∨ x' = x.map returned ∧ ∀ e, x = .ok e → EndsRun rule t e

/-- What the comment of a text with carriage returns is read as. -/
lemma itemsOf_returned {rule : Rule} {table : Table} (htable : table.Returnless) {t t' : Text}
    {c c' : Span} (h : c.Returned t' c') (ht' : Returning t')
    (hc : c ∈ selected rule none (scan rule t)) :
    List.Forall₂ (MayReturn rule t) (itemsOf table (c.toBlock rule))
      (itemsOf table (c'.toBlock rule)) := by
  have hitems : itemsOf table (c.toBlock rule) =
      Reader.itemsFrom table c.line (lines (c.text rule)) := rfl
  have hitems' : itemsOf table (c'.toBlock rule) =
      Reader.itemsFrom table c'.line (lines (c'.text rule)) := rfl
  rw [hitems, hitems', ← h.line_eq]
  rcases h.lines_text rule ht' with he | ⟨⟨marker, hrun⟩, he⟩
  · rw [he]
    exact List.forall₂_same.2 fun x _ => .inl rfl
  · have hsearch : rule.searchable = true := by
      have hcand := isCandidate_of_mem_selected hc
      unfold Span.isCandidate at hcand
      rw [hrun] at hcand
      exact hcand
    have hlength := length_lines_text rule hrun
    rw [he]
    refine (itemsFrom_returnLast htable c.line (h.return_not_mem rule)).imp ?_
    rintro x x' (rfl | ⟨rfl, hends⟩)
    · exact .inl rfl
    · refine .inr ⟨rfl, fun e hx => ⟨hsearch, c, (selected_sublist _ _ _).subset hc,
        ⟨marker, hrun⟩, ?_⟩⟩
      have hstop := hends e hx
      omega

/-- Carriage returns before line breaks change no problem, and of the items only those at the
ends of runs. -/
lemma items_returned {rule : Rule} (hone : rule.OneLine) (hrule : rule.Returnless)
    {table : Table} (htable : table.Returnless) {t : Text} (ht : Returning t) :
    (extract rule t).problems = (extract rule (unreturned t)).problems ∧
      List.Forall₂ (MayReturn rule (unreturned t)) (items rule table (unreturned t))
        (items rule table t) := by
  by_cases hpart : rule.wholeFile = true
  · obtain ⟨hitems, hproblems⟩ := items_wholeFile hpart table t
    obtain ⟨hitems', hproblems'⟩ := items_wholeFile hpart table (unreturned t)
    have hparse : parse table 1 (unreturned t) = parse table 1 t := by
      show Reader.itemsFrom table 1 (lines _) = Reader.itemsFrom table 1 (lines t)
      rw [ht.lines_unreturned]
    rw [hitems, hitems', hproblems, hproblems', hparse]
    exact ⟨rfl, List.forall₂_same.2 fun x _ => .inl rfl⟩
  · have hpart : rule.wholeFile = false := by simpa using hpart
    have hitems : ∀ u, items rule table u = (selected rule none (scan rule u)).flatMap
        fun c => itemsOf table (c.toBlock rule) := by
      intro u
      rw [items, extract_scanned hpart, List.flatMap_map]
    obtain ⟨hproblems, hall⟩ := extract_unreturned hone hrule hpart ht
    refine ⟨hproblems.symm, ?_⟩
    rw [hitems, hitems]
    refine List.rel_flatMap ((List.forall₂_and_left _ _).2 ⟨fun c hc => hc, hall⟩) ?_
    rintro c c' ⟨hc, hret⟩
    exact itemsOf_returned htable hret ht hc

/-- Under every known rule a text with a carriage return in front of every line break has the
problems of the text itself and the same examples. Only an example that ends on the last line of
a run of line comments, where these are searched, may have a carriage return at its end. -/
theorem ofText_withReturns {entry : List String × Rule} (he : entry ∈ Rule.table)
    (searchable : Bool) {table : Table} (htable : table.Returnless) {t : Text} (ht : '\r' ∉ t) :
    (ofText (entry.2.withSearchable searchable) table (withReturns t)).problems =
        (ofText (entry.2.withSearchable searchable) table t).problems ∧
      List.Forall₂ (fun e e' => e' = e ∨
          e' = e.returned ∧ EndsRun (entry.2.withSearchable searchable) t e)
        (ofText (entry.2.withSearchable searchable) table t).examples
        (ofText (entry.2.withSearchable searchable) table (withReturns t)).examples := by
  have hone : (entry.2.withSearchable searchable).OneLine := Rule.oneLine_of_mem_table entry he
  have hrule : (entry.2.withSearchable searchable).Returnless :=
    Rule.returnless_of_mem_table entry he
  obtain ⟨hproblems, hitems⟩ := items_returned hone hrule htable (returning_withReturns ht)
  rw [unreturned_withReturns ht] at hproblems hitems
  constructor
  · have hitem : ∀ x x' : Item, MayReturn (entry.2.withSearchable searchable) t x x' →
        problem? x = problem? x' := by
      rintro x x' (rfl | ⟨rfl, -⟩)
      · rfl
      · cases x <;> rfl
    show (extract _ _).problems.map Problem.comment ++
      ((items _ table (withReturns t)).filterMap problem?).map Problem.anExample = _
    rw [hproblems, ← filterMap_of_forall₂ hitem hitems]
    rfl
  · refine List.rel_filterMap ?_ hitems
    rintro x x' (rfl | ⟨rfl, hends⟩)
    · cases example? x' with
      | none => exact .none
      | some e => exact .some (.inl rfl)
    · cases x with
      | error p => exact .none
      | ok e => exact .some (.inr ⟨rfl, hends e rfl⟩)

/-- The second example is on the last line of the run. -/
theorem ofText_withReturns_hash :
    ∃ entry t, entry ∈ Rule.table ∧ entry.2 = .hash ∧ Table.standard.Returnless ∧
      t = "# $ pwd\n# $ ls\n".toList ∧ '\r' ∉ t ∧
      (ofText (entry.2.withSearchable true) .standard (withReturns t)).problems = [] ∧
      ∃ e₁ e₂, (ofText (entry.2.withSearchable true) .standard t).examples = [e₁, e₂] ∧
        (ofText (entry.2.withSearchable true) .standard (withReturns t)).examples =
          [e₁, e₂.returned] ∧
        e₂.statements = ["ls".toList] ∧ e₂.returned.statements = ["ls\r".toList] ∧
        EndsRun (entry.2.withSearchable true) t e₂ := by
  let entry : List String × Rule := (["sh", "bash", "ps1"], .hash)
  have he : entry ∈ Rule.table := by decide
  have htable : Table.standard.Returnless := by decide
  have ht : '\r' ∉ "# $ pwd\n# $ ls\n".toList := by decide
  let e₁ : Example := ⟨"shell", ["pwd".toList], [], 1, "  ".toList, Options.none⟩
  let e₂ : Example := ⟨"shell", ["ls".toList], [], 2, "  ".toList, Options.none⟩
  have hexamples : (ofText (entry.2.withSearchable true) .standard
      "# $ pwd\n# $ ls\n".toList).examples = [e₁, e₂] := by decide +kernel
  have hreturned : (ofText (entry.2.withSearchable true) .standard
      (withReturns "# $ pwd\n# $ ls\n".toList)).examples = [e₁, e₂.returned] := by decide +kernel
  obtain ⟨hproblems, hall⟩ := ofText_withReturns he true htable ht
  rw [hexamples, hreturned] at hall
  refine ⟨entry, _, he, rfl, htable, rfl, ht, hproblems.trans (by decide +kernel), e₁, e₂,
    hexamples, hreturned, rfl, rfl, ?_⟩
  cases hall with
  | cons _ hrest =>
    cases hrest with
    | cons hlast _ =>
      rcases hlast with hsame | ⟨-, hends⟩
      · exact absurd hsame (by decide)
      · exact hends

/-- A carriage return is left over in the statement of a line comment. -/
theorem withReturns_changes_statements :
    ∃ entry t, entry ∈ Rule.table ∧ entry.2 = .hash ∧ Table.standard.Returnless ∧
      t = "# $ ls\n".toList ∧ '\r' ∉ t ∧
      (ofText entry.2 .standard (withReturns t)).examples ≠
        (ofText entry.2 .standard t).examples :=
  ⟨(["sh", "bash", "ps1"], .hash), _, by decide, rfl, by decide, rfl, by decide,
    by decide +kernel⟩

end Harvest

end Exemplar
