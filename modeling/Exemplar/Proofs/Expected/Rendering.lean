import Exemplar.Proofs.Expected.Literal
import Exemplar.Proofs.Expected.Mismatch

/-!
# The expected text of a failed comparison

Beside output that does not match, the pattern is shown with the captures filled in. What then
stands for the wildcards are texts that the wildcards may take, for neither a captured text nor
a tag as it is written has a forbidden line break. If the shown text were the output, these
texts would spell it, so the scan could only have failed on output that remains. But then every
wildcard with a name was captured, and the shown text ends before the output does.
-/
namespace Exemplar.Expected
open Text

namespace Captures

lemma mem_of_get? {captures : Captures} {name t : Text} (h : captures.get? name = some t) :
    (name, t) ∈ captures := by
  obtain ⟨⟨n, u⟩, hf, rfl⟩ := Option.map_eq_some_iff.1 h
  obtain rfl : n = name := by simpa using List.find?_some hf
  exact List.mem_of_find?_eq_some hf

/-- Captures of distinct names are found. -/
lemma get?_of_mem {captures : Captures} (hd : (captures.map Prod.fst).Nodup) {name t : Text}
    (h : (name, t) ∈ captures) : captures.get? name = some t := by
  induction captures with
  | nil => simp at h
  | cons e captures ih =>
    rw [List.map_cons, List.nodup_cons] at hd
    rcases List.mem_cons.1 h with rfl | h
    · simp [get?]
    · have hne : e.1 ≠ name := by
        rintro rfl
        exact hd.1 (List.mem_map.2 ⟨_, h, rfl⟩)
      have := ih hd.2 h
      simpa [get?, hne] using this

end Captures

namespace Segment

/-- What stands for the wildcards when the segments are rendered. -/
def shown (captures : Captures) (segments : List Segment) : List Text :=
  (segments.filter isWildcard).map (render captures)

@[simp] lemma shown_literal (captures : Captures) (l : Text) (segments : List Segment) :
    shown captures (.literal l :: segments) = shown captures segments := rfl

@[simp] lemma shown_wildcard (captures : Captures) (name : Option Text)
    (segments : List Segment) :
    shown captures (.wildcard name :: segments) =
      render captures (.wildcard name) :: shown captures segments := rfl

/-- The rendered segments are spelled by what is shown for the wildcards. -/
lemma fill_shown (captures : Captures) (segments : List Segment) :
    fill segments (shown captures segments) = some (segments.flatMap (render captures)) := by
  induction segments with
  | nil => rfl
  | cons s segments ih =>
    cases s with
    | literal l => simp [fill, render, ih]
    | wildcard name => simp [fill, ih]

/-- Where every wildcard has a name and is captured, the captured texts are shown. -/
lemma shown_of_bound {captures : Captures} {segments : List Segment} {ws : List Text} {t : Text}
    (hf : fill segments ws = some t) (hn : .wildcard none ∉ segments)
    (hb : ∀ e ∈ bindings segments ws, captures.get? e.1 = some e.2) :
    shown captures segments = ws := by
  induction segments generalizing ws t with
  | nil =>
    cases ws with
    | nil => rfl
    | cons w ws => simp [fill] at hf
  | cons s segments ih =>
    have hn' : .wildcard none ∉ segments := fun h => hn (List.mem_cons_of_mem _ h)
    cases s with
    | literal l =>
      obtain ⟨rest, hr, -⟩ := Option.map_eq_some_iff.1 hf
      exact ih hr hn' hb
    | wildcard name =>
      cases ws with
      | nil => simp [fill] at hf
      | cons w ws =>
        obtain ⟨rest, hr, -⟩ := Option.map_eq_some_iff.1 hf
        cases name with
        | none => simp at hn
        | some name =>
          simp only [bindings, List.forall_mem_cons] at hb
          have hw : render captures (.wildcard (some name)) = w := by simp [render, hb.1]
          rw [shown_wildcard, hw, ih hr hn' hb.2]

/-- Where every wildcard has a name of its own, filling in what they took gives the text that is
spelled. -/
lemma render_bindings {segments : List Segment} {ws : List Text} {t : Text}
    (hf : fill segments ws = some t) (hn : .wildcard none ∉ segments)
    (hd : (names segments).Nodup) :
    segments.flatMap (render (bindings segments ws)) = t := by
  have hbound : ∀ e ∈ bindings segments ws, (bindings segments ws).get? e.1 = some e.2 := by
    intro e he
    refine Captures.get?_of_mem ?_ he
    rwa [bindings_names hf]
  have hfill := fill_shown (bindings segments ws) segments
  rw [shown_of_bound hf hn hbound, hf] at hfill
  exact (Option.some.inj hfill).symm

/-- What wildcards took, or else their tags, are texts that they may take. -/
lemma allowed_shown {spanLines : Bool} {captures : Captures} {segments : List Segment}
    (hn : ∀ name ∈ names segments, '\n' ∉ (Tag.named name).text)
    (hc : ∀ e ∈ captures, Allowed spanLines e.2) :
    ∀ w ∈ shown captures segments, Allowed spanLines w := by
  intro w hw
  obtain ⟨s, hs, rfl⟩ := List.mem_map.1 hw
  obtain ⟨hs, hwild⟩ := List.mem_filter.1 hs
  cases s with
  | literal l => simp [isWildcard] at hwild
  | wildcard name =>
    cases name with
    | none =>
      have hany : '\n' ∉ Tag.any.text := by decide
      exact fun _ => hany
    | some name =>
      have hmem : name ∈ names segments := List.mem_filterMap.2 ⟨_, hs, rfl⟩
      cases hg : captures.get? name with
      | none =>
        rw [render, hg]
        exact fun _ => hn name hmem
      | some t =>
        rw [render, hg]
        exact hc _ (Captures.mem_of_get? hg)

lemma mem_of_mem_bindings {segments : List Segment} {ws : List Text} {e : Text × Text}
    (h : e ∈ bindings segments ws) : e.2 ∈ ws := by
  induction segments generalizing ws with
  | nil => simp [bindings] at h
  | cons s segments ih =>
    rcases s with l | _ | name
    · exact ih h
    · cases ws with
      | nil => simp [bindings] at h
      | cons w ws => exact List.mem_cons_of_mem _ (ih h)
    · cases ws with
      | nil => simp [bindings] at h
      | cons w ws =>
        rcases List.mem_cons.1 h with rfl | h
        · simp
        · exact List.mem_cons_of_mem _ (ih h)

end Segment

namespace Pattern
open Segment

/-- The names of a parsed pattern are written in tags, and tags stand on one line. -/
lemma newline_not_mem_names {comparison : Comparison} {expected : List Text} {p : Pattern}
    (hp : parse comparison expected = .ok p) :
    ∀ name ∈ names p.segments, '\n' ∉ (Tag.named name).text :=
  fun _ hname => (proper_of_mem_names hp hname).newline_not_mem

/-- The rendered pattern is spelled by texts that the wildcards may take. -/
lemma assigns_render {comparison : Comparison} {expected : List Text} {p : Pattern}
    (hp : parse comparison expected = .ok p) (captures : Captures) {spanLines : Bool}
    (hc : ∀ e ∈ captures, Allowed spanLines e.2) :
    Assigns spanLines p.segments (shown captures p.segments) (p.render captures) :=
  ⟨fill_shown captures p.segments, allowed_shown (newline_not_mem_names hp) hc⟩

/-- Where texts that the wildcards may take spell the output, the scan fails only on output that
remains. -/
lemma kind_of_assigns {p : Pattern} (ha : Alternating p.segments) {ws : List Text}
    {output : Text} (h : Assigns p.comparison.spanLines p.segments ws
      (normalize p.comparison.normWs output))
    {m : Mismatch} (hm : (p.matchOutput output).mismatch = some m) :
    m.kind = .unexpectedTrailingOutput := by
  rcases Scan.run_of_assigns (s := Scan.start) (d := []) ha h (allowed_nil _) (.inl rfl) with
    hn | ⟨⟨m', hm', hk⟩, -⟩
  · cases hm.symm.trans hn
  · obtain rfl : m = m' := Option.some.inj (hm.symm.trans hm')
    exact hk

/-- The pattern that is shown beside output that does not match, with the captures filled in, is
another text than the output, unless the tag that captures nothing is a part of the output. -/
theorem expectedText_ne_actual {comparison : Comparison} {expected : List Text} {p : Pattern}
    (hp : parse comparison expected = .ok p) (output : Text)
    (hdots : ¬ Tag.any.text <:+: normalize comparison.normWs output)
    (hfail : (p.matchOutput output).passed = false) :
    (p.matchOutput output).expectedText p ≠ (p.matchOutput output).actual := by
  intro he
  obtain ⟨rfl, ha, hd⟩ := parse_parsed hp
  obtain ⟨m, hm⟩ := exists_mismatch hfail
  obtain ⟨done, todo, ws, before, rest, hh⟩ := Scan.exists_halts (s := Scan.start) ha hm
  have hc : (p.matchOutput output).captures = bindings done ws := hh.captured
  have hrender : p.render (bindings done ws) = normalize p.comparison.normWs output := by
    rw [← hc]
    exact he
  have hassigns := assigns_render hp (bindings done ws) fun e hmem =>
    hh.filled.allowed e.2 (mem_of_mem_bindings hmem)
  rw [hrender] at hassigns
  -- so all segments were passed
  obtain ⟨-, rfl, -, hrest⟩ := hh.stuck.unexpectedTrailingOutput (kind_of_assigns ha hassigns hm)
  obtain rfl : p.segments = done := by simpa using hh.parts
  have hnone : .wildcard none ∉ p.segments := by
    intro hmem
    have hshown : Segment.render (bindings p.segments ws) (.wildcard none) ∈
        p.segments.map (Segment.render (bindings p.segments ws)) := List.mem_map_of_mem hmem
    have hinfix := List.infix_of_mem_flatten hshown
    rw [← List.flatMap_def] at hinfix
    exact hdots (hrender ▸ hinfix)
  have hbefore : before ++ rest = before :=
    calc before ++ rest = normalize p.comparison.normWs output := hh.spells.symm
      _ = p.render (bindings p.segments ws) := hrender.symm
      _ = before := render_bindings hh.filled.spells hnone hd
  exact hrest (by simpa using hbefore)

/-- The name is captured and the output remains behind the full stop. -/
theorem expectedText_ne_actual_trailing :
    ∃ p, parse .standard ["<x>.".toList] = .ok p ∧
      ¬ Tag.any.text <:+: normalize false "a.b".toList ∧
      (p.matchOutput "a.b".toList).passed = false ∧
      (p.matchOutput "a.b".toList).expectedText p = "a.".toList ∧
      (p.matchOutput "a.b".toList).actual = "a.b".toList ∧
      (p.matchOutput "a.b".toList).expectedText p ≠ (p.matchOutput "a.b".toList).actual := by
  have hs : Token.scan "<x>.".toList = [.tag (.named ['x']), .char '.'] := by decide +kernel
  have hp : parse .standard ["<x>.".toList] =
      .ok ⟨[.wildcard (some ['x']), .literal ['.']], .standard⟩ :=
    parse_standard ["<x>.".toList] hs rfl
  have hdots : ¬ Tag.any.text <:+: normalize false "a.b".toList := by decide
  refine ⟨_, hp, hdots, by decide, by decide, by decide, ?_⟩
  exact expectedText_ne_actual hp _ hdots (by decide)

/-- Without the condition the texts can be the same: the first full stop is one of the dots. -/
example :
    let p : Pattern := ⟨[.wildcard none, .literal ['.']], .standard⟩
    (p.matchOutput "<...>.".toList).passed = false ∧
      (p.matchOutput "<...>.".toList).expectedText p =
        (p.matchOutput "<...>.".toList).actual := by decide

end Pattern

end Exemplar.Expected
