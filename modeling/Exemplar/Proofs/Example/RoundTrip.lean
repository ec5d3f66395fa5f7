import Exemplar.Proofs.Example.Segmentation
import Exemplar.Proofs.Text.Lines

/-!
# Writing an example and reading it again

An example that was read from a text and is written with the prompt of its language is read
again as the same example and nothing else. The line of the prompt and the output are
written as they stood. A continued statement may be written with fewer blanks, before the
marker or in place of an empty statement, and still continues with the same statement.
-/
namespace Exemplar.Example
open Text Prompt

/-- A line with a block that leaves nothing makes one item. -/
lemma itemsFrom_of_block {table : Table} {line : Nat} {l : Text} {m : Table.Primary}
    {below more out : List Text} (hm : table.primary? l = some m)
    (h : Block table m below more out []) :
    Reader.itemsFrom table line (l :: below) = [Example.item m line more out] := by
  let q : Place := ⟨line, m, below⟩
  have hq : q.item table = Example.item m line more out :=
    Block.item_eq (Table.opens_of_primary? hm).proper h
  obtain ⟨taken, hb, -, hno⟩ := h.exists_taken
  have hnil : places table (line + 1) below = [] := by
    rw [hb, places_append hno]
    rfl
  rw [itemsFrom_eq_map, places, hm]
  simp only [hnil, List.map_cons, List.map_nil]
  rw [← hq]

/-- What is written of a continued statement behind the indentation. -/
def writtenTail (p : Prompt) (s : Text) : Text :=
  if s = [] then trimEnd p.continuation else p.continuation ++ s

lemma continuationLine_eq {p : Prompt} (hp : p.Proper) (indent s : Text) :
    continuationLine indent p.continuation s = indent ++ writtenTail p s := by
  by_cases hs : s = []
  · simp only [continuationLine, writtenTail, hs, if_true, List.append_nil]
    exact trimEnd_append hp.2
  · simp [continuationLine, writtenTail, hs]

lemma writtenTail_ne_nil {p : Prompt} (hp : p.Proper) (s : Text) : writtenTail p s ≠ [] := by
  rw [writtenTail]
  split
  · exact hp.bare_ne_nil
  · simp [hp.continuation_ne_nil]

/-- What is written is the marker with the statement, or all of the marker but its blanks. -/
lemma writtenTail_marker (p : Prompt) (s : Text) :
    writtenTail p s = p.continuation ++ s ∨
      ¬ p.continuation <+: writtenTail p s ∧ trimEnd (writtenTail p s) = trimEnd p.continuation ∧
        s = [] := by
  by_cases hs : s = []
  · rw [writtenTail, if_pos hs]
    by_cases hfull : p.continuation <+: trimEnd p.continuation
    · have he := hfull.eq_of_length_le (trimEnd_isPrefix _).length_le
      exact .inl (by rw [hs, List.append_nil, ← he])
    · exact .inr ⟨hfull, trimEnd_trimEnd _, hs⟩
  · exact .inl (if_neg hs)

section
variable {table : Table} {p : Prompt} {indent l s : Text}

/-- Behind its blanks the line has the marker. -/
lemma Continues.marker (h : Continues table p indent l s) (hi : allBlank indent = true) :
    trimStart l = p.continuation ++ s ∨
      ¬ p.continuation <+: trimStart l ∧ trimEnd (trimStart l) = trimEnd p.continuation ∧
        s = [] := by
  obtain ⟨-, u, rfl, hu⟩ := h
  rw [trimStart_append hi]
  exact hu

lemma Continues.writtenTail_eq (h : Continues table p indent l s) (hi : allBlank indent = true)
    (hs : s ≠ []) : writtenTail p s = trimStart l := by
  rw [writtenTail, if_neg hs]
  rcases h.marker hi with hl | ⟨-, -, he⟩
  · exact hl.symm
  · exact absurd he hs

/-- Nothing is written that was not read. -/
lemma Continues.writtenTail_isPrefix (h : Continues table p indent l s)
    (hi : allBlank indent = true) : writtenTail p s <+: trimStart l := by
  by_cases hs : s = []
  · rw [writtenTail, if_pos hs]
    rcases h.marker hi with hl | ⟨-, hl, -⟩
    · rw [hl, hs, List.append_nil]
      exact trimEnd_isPrefix _
    · rw [← hl]
      exact trimEnd_isPrefix _
  · exact h.writtenTail_eq hi hs ▸ List.prefix_rfl

/-- The line that is written continues the example with the same statement. -/
lemma Continues.written (h : Continues table p indent l s) (hp : p.Proper)
    (hi : allBlank indent = true) :
    Continues table p indent (continuationLine indent p.continuation s) s := by
  have hpre := h.writtenTail_isPrefix hi
  have htrim : trimStart (writtenTail p s) = writtenTail p s := by
    obtain ⟨b, hb⟩ := hpre
    exact trimStart_of_noBlankFirst (NoBlankFirst.of_append (hb ▸ noBlankFirst_trimStart l))
  rw [continuationLine_eq hp]
  refine ⟨Table.primary?_eq_none_of_isPrefix h.1 ?_, writtenTail p s, rfl, ?_⟩
  · rw [trimStart_append hi, htrim]
    exact hpre
  · rw [htrim]
    exact writtenTail_marker p s

/-- Writing a continued statement adds no break and no carriage return at the end. -/
lemma Continues.replaces (h : Continues table p indent l s) (hp : p.Proper)
    (hi : allBlank indent = true) :
    Replaces l (continuationLine indent p.continuation s) := by
  have hne := writtenTail_ne_nil hp s
  have hsub : indent ++ writtenTail p s ⊆ l := by
    have htail :=
      List.Subset.trans (h.writtenTail_isPrefix hi).subset (List.dropWhile_suffix _).subset
    obtain ⟨-, u, rfl, -⟩ := h
    exact List.append_subset.2 ⟨List.subset_append_left _ _, htail⟩
  rw [continuationLine_eq hp]
  refine ⟨by simp [hne], fun hn hm => hn (hsub hm), ?_⟩
  rw [List.getLast?_append_of_ne_nil _ hne]
  intro hr
  by_cases hs : s = []
  · rw [writtenTail, if_pos hs] at hr
    have hblank := getLast?_trimEnd hr
    exact absurd hblank (by decide)
  · rw [h.writtenTail_eq hi hs] at hr hne
    rw [← indent_append_trimStart l, List.getLast?_append_of_ne_nil _ hne]
    exact hr

end

/-- The lines of an example as they are written. -/
def writtenLines (m : Table.Primary) (more out : List Text) : List Text :=
  (m.indent ++ (m.prompt.primary ++ m.statement)) ::
    (more.map (continuationLine m.indent m.prompt.continuation) ++ out.map (m.indent ++ ·))

lemma toSource_eq {m : Table.Primary} {more out : List Text} {e : Example}
    (hs : e.statements = m.statement :: more) (ho : e.expected = out) (hi : e.indent = m.indent) :
    e.toSource m.prompt = joinLines (writtenLines m more out) := by
  simp [toSource, promptLines, writtenLines, hs, ho, hi]

lemma prints_eq_map {table : Table} {indent : Text} {os out : List Text}
    (h : List.Forall₂ (Prints table indent) os out) : os = out.map (indent ++ ·) := by
  rw [← List.forall₂_eq_eq_eq, List.forall₂_map_right_iff]
  exact h.imp fun _ _ ho => ho.2.2

/-- The written lines below the prompt are a block of the same statements and output. -/
lemma Block.written {table : Table} {l : Text} {m : Table.Primary}
    {below more out rest : List Text} (h : Block table m below more out rest)
    (hm : table.Opens l m) :
    Block table m (more.map (continuationLine m.indent m.prompt.continuation) ++
      out.map (m.indent ++ ·)) more out [] := by
  have hi : allBlank m.indent = true := by rw [hm.indent_eq, allBlank_indent]
  obtain ⟨behind, ⟨⟨cs, rfl, hc⟩, hcmax⟩, ⟨os, rfl, ho⟩, -⟩ := h
  have hos := prints_eq_map ho
  refine ⟨os, ⟨⟨more.map (continuationLine m.indent m.prompt.continuation), ?_, ?_⟩, ?_⟩,
    ⟨os, by simp, ho⟩, by simp⟩
  · rw [hos]
  · rw [List.forall₂_map_left_iff, List.forall₂_same]
    intro s hs
    obtain ⟨l, -, hl⟩ := exists_of_forall₂ hc hs
    exact hl.written hm.proper hi
  · -- the first line of output did not continue the statement before, and it still does not
    cases os with
    | nil => simp
    | cons o os => simpa using hcmax

/-- Each written line stands in the place of the line that was read. -/
lemma Block.written_replaces {table : Table} {l : Text} {m : Table.Primary}
    {below more out rest : List Text} (h : Block table m below more out rest)
    (hm : table.Opens l m) :
    ∃ taken, below = taken ++ rest ∧
      List.Forall₂ Replaces (l :: taken) (writtenLines m more out) := by
  have hi : allBlank m.indent = true := by rw [hm.indent_eq, allBlank_indent]
  obtain ⟨behind, ⟨⟨cs, rfl, hc⟩, -⟩, ⟨os, rfl, ho⟩, -⟩ := h
  refine ⟨cs ++ os, by rw [List.append_assoc], .cons ?_ (List.rel_append ?_ ?_)⟩
  · rw [← hm.spells]
    refine .self ?_
    rw [hm.spells]
    simp [hm.proper.primary_ne_nil]
  · rw [List.forall₂_map_right_iff]
    exact hc.imp fun _ _ hs => hs.replaces hm.proper hi
  · rw [← prints_eq_map ho, List.forall₂_same]
    intro o hmem
    refine .self ?_
    rintro rfl
    have := forall_left_of_forall₂ ho (fun _ _ h => h.2.1) [] hmem
    simp [allBlank] at this

/-- Each example of a text without two carriage returns before a line break is found again,
alone, when it is written with the prompt of its language and read from its own line. -/
theorem parse_toSource {table : Table} {first : Nat} {t : Text} {e : Example}
    (ht : ¬ ['\r', '\r', '\n'] <:+: t) (he : .ok e ∈ parse table first t) :
    ∃ p, table.find? e.language = some p ∧ parse table e.line (e.toSource p) = [.ok e] := by
  have hparse : parse table first t = (places table first (lines t)).map (Place.item table) :=
    itemsFrom_eq_map table first (lines t)
  rw [hparse, List.mem_map] at he
  obtain ⟨q, hq, hitem⟩ := he
  obtain ⟨pre, l, hlines, hl⟩ := exists_line_of_mem_places hq
  have hm := Table.opens_of_primary? hl
  have hblock := Place.block table hm.proper
  obtain ⟨hlang, hstatements, hexpected, hline, hindent, -⟩ :=
    (item_makes q.opening q.line (q.more table) (q.expected table)).example_eq e hitem
  refine ⟨q.opening.prompt, by rw [hlang]; exact Table.find?_language hm.known, ?_⟩
  obtain ⟨taken, hbelow, hrep⟩ := hblock.written_replaces hm
  have hread : lines (e.toSource q.opening.prompt) =
      writtenLines q.opening (q.more table) (q.expected table) := by
    have hpart : lines t = pre ++ (l :: taken) ++ q.rest table := by
      rw [hlines, hbelow]
      simp
    rw [toSource_eq hstatements hexpected hindent]
    exact lines_joinLines_of_replaces ht hpart hrep
  calc parse table e.line (e.toSource q.opening.prompt)
      = Reader.itemsFrom table e.line
          (writtenLines q.opening (q.more table) (q.expected table)) := by
        rw [← hread]; rfl
    _ = [Example.item q.opening e.line (q.more table) (q.expected table)] := by
        rw [writtenLines, ← hm.spells]
        exact itemsFrom_of_block hl (hblock.written hm)
    _ = [.ok e] := by rw [hline, ← hitem]; rfl

/-- The blanks before the first continuation marker are not written, nor is the one behind
the second, which stands for an empty statement. -/
theorem parse_toSource_bare_marker :
    ∃ e, ¬ ['\r', '\r', '\n'] <:+: " >>> f(\n    ... )\n ...\t\n 1\r".toList ∧
      .ok e ∈ parse .standard 7 " >>> f(\n    ... )\n ...\t\n 1\r".toList ∧
      ∃ p, Table.standard.find? e.language = some p ∧
        parse .standard e.line (e.toSource p) = [.ok e] := by
  have ht : ¬ ['\r', '\r', '\n'] <:+: " >>> f(\n    ... )\n ...\t\n 1\r".toList := by
    intro h
    have hc := h.sublist.count_le '\r'
    exact absurd hc (by decide)
  have he : .ok ⟨"python", ["f(".toList, ")".toList, []], ["1\r".toList], 7, " ".toList,
      Options.none⟩ ∈ parse .standard 7 " >>> f(\n    ... )\n ...\t\n 1\r".toList := by
    have hp : parse .standard 7 " >>> f(\n    ... )\n ...\t\n 1\r".toList =
        [.ok ⟨"python", ["f(".toList, ")".toList, []], ["1\r".toList], 7, " ".toList,
          Options.none⟩] := (itemsFrom_eq_map _ _ _).trans rfl
    rw [hp]
    exact List.mem_singleton.2 rfl
  exact ⟨_, ht, he, parse_toSource ht he⟩

end Exemplar.Example
