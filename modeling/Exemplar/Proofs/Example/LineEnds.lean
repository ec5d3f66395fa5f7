import Exemplar.Proofs.Example.Segmentation
import Exemplar.Proofs.Text.LineEnds

/-!
# A carriage return behind the last line

When no marker has a carriage return, one at the end of the last line changes no more than the
text of that line. The same lines begin the same items, with the same flags, and only an
example to which the last line belongs can show the carriage return.
-/
namespace Exemplar
open Text Prompt

namespace Prompt.Table

/-- No marker of the table has a carriage return. -/
def Returnless (table : Table) : Prop :=
  ∀ p ∈ table.prompts, '\r' ∉ p.primary ∧ '\r' ∉ p.continuation

instance (table : Table) : Decidable table.Returnless := by unfold Returnless; infer_instance

lemma firstPrimary?_concat {c : Char} {ps : List Prompt} (h : ∀ p ∈ ps, c ∉ p.primary)
    (t : Text) :
    firstPrimary? (t ++ [c]) ps = (firstPrimary? t ps).map fun found => (found.1, found.2 ++ [c]) := by
  induction ps with
  | nil => rfl
  | cons p ps ih =>
    rw [firstPrimary?, firstPrimary?, stripPrefix?_concat (h p (by simp))]
    cases stripPrefix? p.primary t with
    | some r => rfl
    | none => exact ih fun q hq => h q (List.mem_cons_of_mem p hq)

/-- The opening of the line with a carriage return at its end. -/
def Primary.returned (m : Primary) : Primary := ⟨m.prompt, m.indent, m.statement ++ ['\r']⟩

lemma primary?_concat_return {table : Table} (h : table.Returnless) (l : Text) :
    table.primary? (l ++ ['\r']) = (table.primary? l).map Primary.returned := by
  by_cases hb : allBlank l = true
  · rw [table.primary?_of_allBlank hb, table.primary?_of_allBlank (by simpa using hb)]
    rfl
  · have hb : allBlank l = false := by simpa using hb
    have htrim := trimStart_concat_return l
    rw [if_neg (by simp [hb])] at htrim
    unfold primary?
    rw [htrim, indent_concat_return hb, firstPrimary?_concat fun p hp => (h p hp).1,
      Option.map_map, Option.map_map]
    rfl

lemma isSome_primary?_concat_return {table : Table} (h : table.Returnless) (l : Text) :
    (table.primary? (l ++ ['\r'])).isSome = (table.primary? l).isSome := by
  rw [primary?_concat_return h, Option.isSome_map]

end Prompt.Table

namespace Options

/-- A carriage return at the end of a statement is no part of a flag. -/
lemma lineTokens_concat_return (s : Text) : lineTokens (s ++ ['\r']) = lineTokens s := by
  have htag : '\r' ∉ tag := by decide
  unfold lineTokens
  rw [breakOn_concat htag (by decide)]
  cases breakOn tag s with
  | none => rfl
  | some found =>
    have hdrop : dropTrailers (found.2 ++ ['\r']) = dropTrailers found.2 := by
      unfold dropTrailers
      rw [trimEnd_concat_return]
    simp only [Option.map_some, hdrop]

lemma flatMap_lineTokens_returnLast (ss : List Text) :
    (returnLast ss).flatMap lineTokens = ss.flatMap lineTokens := by
  induction ss with
  | nil => rfl
  | cons s ss ih =>
    cases ss with
    | nil => simp [returnLast, lineTokens_concat_return]
    | cons s' ss' => rw [returnLast_cons s (by simp), List.flatMap_cons, List.flatMap_cons, ih]

lemma ofStatements_of_flatMap {ss ss' : List Text}
    (h : ss'.flatMap lineTokens = ss.flatMap lineTokens) : ofStatements ss' = ofStatements ss := by
  unfold ofStatements
  rw [setStatements_eq, setStatements_eq, h]

end Options

/-- The function makes of a line with a carriage return at its end what it makes of the line, or
the same text with a carriage return at its end. -/
def KeepsReturn (f : Text → Option Text) : Prop :=
  ∀ l, f (l ++ ['\r']) = f l ∨ f (l ++ ['\r']) = (f l).map (· ++ ['\r'])

lemma Prompt.keepsReturn_stripContinuation? {p : Prompt} (hp : '\r' ∉ p.continuation) :
    KeepsReturn p.stripContinuation? := by
  intro l
  unfold Prompt.stripContinuation?
  rw [stripPrefix?_concat hp, trimEnd_concat_return]
  cases stripPrefix? p.continuation l with
  | none => exact .inl rfl
  | some s => exact .inr rfl

/-- A carriage return at the end of the last line stays behind what is taken, or it is at the
end of the last value if everything is taken. -/
lemma takeMap_returnLast {f : Text → Option Text} (hf : KeepsReturn f) (ls : List Text) :
    (takeMap f (returnLast ls)).2 = returnLast (takeMap f ls).2 ∧
      ((takeMap f (returnLast ls)).1 = (takeMap f ls).1 ∨
        (takeMap f ls).2 = [] ∧ (takeMap f (returnLast ls)).1 = returnLast (takeMap f ls).1) := by
  induction ls with
  | nil => exact ⟨rfl, .inl rfl⟩
  | cons l ls ih =>
    cases ls with
    | nil =>
      show (takeMap f [l ++ ['\r']]).2 = _ ∧ ((takeMap f [l ++ ['\r']]).1 = _ ∨ _)
      cases hl : f l with
      | none =>
        have hl' : f (l ++ ['\r']) = none := by
          rcases hf l with he | he <;> simp [he, hl]
        simp [takeMap, hl, hl', returnLast]
      | some v =>
        rcases hf l with he | he
        · rw [hl] at he
          simp [takeMap, hl, he, returnLast]
        · rw [hl] at he
          simp [takeMap, hl, he, returnLast]
    | cons l' ls' =>
      rw [returnLast_cons l (by simp), takeMap, takeMap]
      cases hl : f l with
      | none => exact ⟨(returnLast_cons l (by simp)).symm, .inl rfl⟩
      | some v =>
        obtain ⟨hrest, htaken⟩ := ih
        refine ⟨hrest, ?_⟩
        rcases htaken with he | ⟨hnil, he⟩
        · left
          simp only
          rw [he]
        · by_cases hvs : (takeMap f (l' :: ls')).1 = []
          · left
            simp only
            rw [he, hvs]
            rfl
          · right
            refine ⟨hnil, ?_⟩
            simp only
            rw [he, returnLast_cons v hvs]

namespace Example

/-- The example with a carriage return at the end of its last line. -/
def returned (e : Example) : Example :=
  if e.expected = [] then { e with statements := returnLast e.statements }
  else { e with expected := returnLast e.expected }

section
variable {table : Table} (h : table.Returnless) {indent : Text} (hi : '\r' ∉ indent)
include h hi

lemma keepsReturn_continuation? {p : Prompt} (hp : p ∈ table.prompts) :
    KeepsReturn (continuation? table p indent) := by
  intro l
  unfold continuation?
  rw [Table.isSome_primary?_concat_return h, stripPrefix?_concat hi]
  by_cases hm : (table.primary? l).isSome = true
  · rw [if_pos hm, if_pos hm]
    exact .inl rfl
  · rw [if_neg hm, if_neg hm]
    cases stripPrefix? indent l with
    | none => exact .inl rfl
    | some u =>
      simp only [Option.map_some, Option.bind_some]
      rw [trimStart_concat_return]
      by_cases hb : allBlank u = true
      · rw [if_pos hb, trimStart_eq_nil.2 hb]
        exact .inl rfl
      · rw [if_neg hb]
        exact Prompt.keepsReturn_stripContinuation? (h p hp).2 (trimStart u)

lemma keepsReturn_output? : KeepsReturn (output? table indent) := by
  intro l
  unfold output?
  rw [Table.isSome_primary?_concat_return h, stripPrefix?_concat hi, allBlank_concat_return]
  by_cases hm : (allBlank l || (table.primary? l).isSome) = true
  · rw [if_pos hm, if_pos hm]
    exact .inl rfl
  · rw [if_neg hm, if_neg hm]
    exact .inr rfl

end

/-- The item of a last line can have a carriage return more, and then its example ends on the
line before `stop`. -/
def LastReturned (stop : Nat) (x x' : Item) : Prop :=
  x' = x ∨ x' = x.map returned ∧ ∀ e, x = .ok e → e.endLine + 1 = stop

/-- A carriage return at the end of the statements, or of the output below them, changes the
item no further. -/
lemma item_returned (m : Table.Primary) (line : Nat) (more out : List Text) :
    Example.item m.returned line [] [] = (Example.item m line [] []).map returned ∧
      (more ≠ [] → Example.item m line (returnLast more) [] =
        (Example.item m line more []).map returned) ∧
      (out ≠ [] → Example.item m line more (returnLast out) =
        (Example.item m line more out).map returned) := by
  have hblank : allBlank m.returned.statement = allBlank m.statement :=
    allBlank_concat_return m.statement
  unfold Example.item
  rw [hblank]
  by_cases hb : allBlank m.statement = true
  · simp only [hb, if_true]
    exact ⟨rfl, fun _ => rfl, fun _ => rfl⟩
  · simp only [hb]
    refine ⟨?_, fun hmore => ?_, fun hout => ?_⟩
    · have hoptions : Options.ofStatements [m.returned.statement] =
          Options.ofStatements [m.statement] :=
        Options.ofStatements_of_flatMap (Options.flatMap_lineTokens_returnLast [m.statement])
      rw [hoptions]
      cases Options.ofStatements [m.statement] <;> rfl
    · have hcons : m.statement :: returnLast more = returnLast (m.statement :: more) :=
        (returnLast_cons m.statement hmore).symm
      have hoptions : Options.ofStatements (m.statement :: returnLast more) =
          Options.ofStatements (m.statement :: more) := by
        rw [hcons]
        exact Options.ofStatements_of_flatMap (Options.flatMap_lineTokens_returnLast _)
      rw [hoptions]
      cases Options.ofStatements (m.statement :: more) with
      | error option => rfl
      | ok options => simp [Except.map, returned, hcons]
    · cases Options.ofStatements (m.statement :: more) with
      | error option => rfl
      | ok options => simp [Except.map, returned, hout]

section
variable {table : Table} (h : table.Returnless)
include h

/-- The place with a carriage return behind the lines below it. -/
def Place.returned (q : Place) : Place := ⟨q.line, q.opening, returnLast q.below⟩

/-- A carriage return behind the lines below a place is left behind, or it ends the last line of
the output, or the last statement when all lines below are statements. -/
lemma Place.lines_returned {q : Place} (hp : q.opening.prompt ∈ table.prompts)
    (hi : '\r' ∉ q.opening.indent) :
    q.returned.more table = q.more table ∧ q.returned.expected table = q.expected table ∨
      q.rest table = [] ∧
        (q.returned.more table = q.more table ∧
          q.returned.expected table = returnLast (q.expected table) ∨
        q.expected table = [] ∧ q.returned.more table = returnLast (q.more table) ∧
          q.returned.expected table = []) := by
  obtain ⟨hbehind, hmore⟩ := takeMap_returnLast (keepsReturn_continuation? h hi hp) q.below
  unfold Place.more Place.expected Place.rest Place.returned
  simp only
  rw [hbehind]
  rcases hmore with hmore | ⟨hnil, hmore⟩
  · rw [hmore]
    rcases (takeMap_returnLast (keepsReturn_output? h hi) _).2 with hout | ⟨hnil, hout⟩
    · exact .inl ⟨rfl, hout⟩
    · exact .inr ⟨hnil, .inl ⟨rfl, hout⟩⟩
  · rw [hmore, hnil]
    exact .inr ⟨rfl, .inr ⟨rfl, rfl, rfl⟩⟩

lemma Place.item_returned {q : Place} (hp : q.opening.prompt ∈ table.prompts)
    (hi : '\r' ∉ q.opening.indent) :
    LastReturned (q.line + 1 + q.below.length) (q.item table) (q.returned.item table) := by
  have hends : q.rest table = [] → ∀ e, q.item table = .ok e →
      e.endLine + 1 = q.line + 1 + q.below.length := by
    intro hrest e he
    obtain ⟨-, hstatements, hexpected, hline, -⟩ := (q.makes table).example_eq e he
    obtain ⟨taken, hbelow, hlen, -⟩ := (Place.block table (table.proper _ hp)).exists_taken
    rw [hrest, List.append_nil] at hbelow
    rw [endLine, hstatements, hexpected, hline, hbelow, hlen, List.length_cons]
    omega
  obtain ⟨-, hmakes, hmakes'⟩ :=
    Example.item_returned q.opening q.line (q.more table) (q.expected table)
  have hitem : q.returned.item table =
      Example.item q.opening q.line (q.returned.more table) (q.returned.expected table) := rfl
  rw [hitem]
  rcases Place.lines_returned h hp hi with
    ⟨hmore, hout⟩ | ⟨hrest, ⟨hmore, hout⟩ | ⟨hnone, hmore, hout⟩⟩
  · left
    rw [hmore, hout]
    rfl
  · rw [hmore, hout]
    by_cases hne : q.expected table = []
    · left
      rw [Place.item, hne]
      rfl
    · exact .inr ⟨hmakes' hne, hends hrest⟩
  · rw [hmore, hout]
    by_cases hne : q.more table = []
    · left
      rw [Place.item, hne, hnone]
      rfl
    · refine .inr ⟨?_, hends hrest⟩
      rw [hmakes hne, Place.item, hnone]

lemma places_returnLast (line : Nat) {ls : List Text} (hls : ∀ l ∈ ls, '\r' ∉ l) :
    List.Forall₂ (fun q q' => LastReturned (line + ls.length) (q.item table) (q'.item table))
      (places table line ls) (places table line (returnLast ls)) := by
  induction ls generalizing line with
  | nil => exact .nil
  | cons l ls ih =>
    cases ls with
    | nil =>
      have hl := Table.primary?_concat_return h l
      show List.Forall₂ _ (places table line [l]) (places table line [l ++ ['\r']])
      cases hm : table.primary? l with
      | none =>
        rw [hm] at hl
        rw [places_of_none hm, places_of_none hl]
        exact .nil
      | some m =>
        rw [hm] at hl
        rw [places_of_some hm, places_of_some hl]
        refine .cons (.inr ⟨(item_returned m line [] []).1, fun e he => ?_⟩) .nil
        obtain ⟨-, hstatements, hexpected, hline, -⟩ := (item_makes m line [] []).example_eq e he
        rw [endLine, hstatements, hexpected, hline]
        rfl
    | cons l' ls' =>
      have hrest := ih (line + 1) fun k hk => hls k (List.mem_cons_of_mem l hk)
      have hlength : line + 1 + (l' :: ls').length = line + (l :: l' :: ls').length := by
        rw [List.length_cons (a := l)]
        omega
      rw [hlength] at hrest
      rw [returnLast_cons l (by simp)]
      cases hm : table.primary? l with
      | none =>
        rw [places_of_none hm, places_of_none hm]
        exact hrest
      | some m =>
        have hopens := Table.opens_of_primary? hm
        have hindent : '\r' ∉ m.indent := by
          intro hmem
          refine hls l (List.mem_cons_self ..) ?_
          rw [hopens.spells]
          exact List.mem_append_left _ hmem
        have hitem := Place.item_returned h (q := ⟨line, m, l' :: ls'⟩) hopens.known hindent
        rw [places_of_some hm, places_of_some hm]
        exact .cons (hlength ▸ hitem) hrest

/-- A carriage return behind the last line shows at the end of an example that ends there, and
nowhere else. -/
theorem itemsFrom_returnLast (line : Nat) {ls : List Text} (hls : ∀ l ∈ ls, '\r' ∉ l) :
    List.Forall₂ (LastReturned (line + ls.length)) (Reader.itemsFrom table line ls)
      (Reader.itemsFrom table line (returnLast ls)) := by
  rw [itemsFrom_eq_map, itemsFrom_eq_map, List.forall₂_map_left_iff, List.forall₂_map_right_iff]
  exact places_returnLast h line hls

end

end Example

end Exemplar
