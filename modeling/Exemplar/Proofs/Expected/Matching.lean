import Exemplar.Proofs.Expected.Filling

/-!
# What matching decides

The scan passes exactly when the leftmost assignment of the pattern to the output exists,
and then its captures are the named texts of that assignment. It also passes whenever any
assignment exists, unless output remains behind a literal that ends the pattern. The scan
is never ahead of an assignment, and what it is behind by has no line break unless
wildcards may span lines.
-/
namespace Exemplar.Expected
open Text

namespace Segment

/-- The last of the segments, if there is one, is a wildcard. -/
def endInWildcard (segments : List Segment) : Bool := segments.getLast?.any isWildcard

@[simp] theorem endInWildcard_cons_cons (s s' : Segment) (segments : List Segment) :
    endInWildcard (s :: s' :: segments) = endInWildcard (s' :: segments) := by
  simp [endInWildcard, List.getLast?_cons_cons]

/-- A literal does not end the segments in a wildcard. -/
lemma endInWildcard_literal {l : Text} {segments : List Segment} :
    endInWildcard (literal l :: segments) = endInWildcard segments := by
  cases segments with
  | nil => rfl
  | cons s segments => exact endInWildcard_cons_cons _ _ _

end Segment

namespace Scan
open Segment

variable {spanLines : Bool} {s : State}

/-- A literal with no wildcard before it has to begin the rest of the output. -/
lemma run_literal {l rest : Text} {segments : List Segment} :
    run spanLines s none rest (.literal l :: segments) =
      match stripPrefix? l rest with
      | none => s.fail s.segment l .literalNotFound
      | some after =>
        run spanLines ⟨s.segment + 1, s.offset + byteSize l, s.captures⟩ none after segments := rfl

/-- A wildcard at the end takes the rest of the output or fails. -/
lemma run_last {name : Option Text} {rest : Text} :
    run spanLines s none rest [.wildcard name] =
      if crosses spanLines rest then
        State.fail ⟨s.segment + 1, s.offset, s.captures⟩ s.segment [] .wildcardSpansLines
      else ⟨none, s.capture name rest⟩ := rfl

/-- A wildcard before a literal takes what precedes the literal or fails. -/
lemma run_gap {name : Option Text} {l rest : Text} {segments : List Segment} :
    run spanLines s none rest (.wildcard name :: .literal l :: segments) =
      match breakOn l rest with
      | none => State.fail ⟨s.segment + 1, s.offset, s.captures⟩ (s.segment + 1) l .literalNotFound
      | some (gap, after) =>
        if crosses spanLines gap then
          State.fail ⟨s.segment + 1, s.offset, s.captures⟩ (s.segment + 1) l .wildcardSpansLines
        else
          run spanLines ⟨s.segment + 2, s.offset + byteSize gap + byteSize l, s.capture name gap⟩
            none after segments := rfl

lemma run_gap_found {name : Option Text} {l rest gap after : Text} {segments : List Segment}
    (hf : FirstOccurrence l rest gap after) (hw : Allowed spanLines gap) :
    run spanLines s none rest (.wildcard name :: .literal l :: segments) =
      run spanLines ⟨s.segment + 2, s.offset + byteSize gap + byteSize l, s.capture name gap⟩
        none after segments := by
  simp [run_gap, breakOn_eq_some.2 hf, crosses_eq_false.2 hw]

lemma capture_eq (name : Option Text) (w : Text) :
    s.capture name w = s.captures ++ bindings [.wildcard name] [w] := by
  cases name <;> simp [State.capture, bindings]

lemma bindings_gap (name : Option Text) (l w : Text) (segments : List Segment) (ws : List Text) :
    bindings (.wildcard name :: .literal l :: segments) (w :: ws) =
      bindings [.wildcard name] [w] ++ bindings segments ws := by
  cases name <;> simp [bindings]

/-- On its leftmost assignment a pattern passes, and the named texts are captured. -/
theorem run_of_leftmost {segments : List Segment} {ws : List Text} {rest : Text}
    (ha : Alternating segments) (h : Leftmost spanLines segments ws rest) :
    run spanLines s none rest segments = ⟨none, s.captures ++ bindings segments ws⟩ := by
  induction ha generalizing s ws rest with
  | nil =>
    obtain ⟨rfl, rfl⟩ := leftmost_nil.1 h
    simp [run, finish, bindings]
  | literal _ _ ih =>
    obtain ⟨after, rfl, hr⟩ := leftmost_literal.1 h
    rw [run_literal, stripPrefix?_append]
    exact ih hr
  | last =>
    obtain ⟨rfl, hw⟩ := leftmost_last.1 h
    rw [run_last, crosses_eq_false.2 hw, capture_eq]
    rfl
  | gap _ _ ih =>
    obtain ⟨w, ws', after, rfl, hf, hw, hr⟩ := leftmost_gap.1 h
    rw [run_gap_found hf hw, ih hr, capture_eq, bindings_gap, List.append_assoc]

/-- A scan that passes has found the leftmost assignment. -/
theorem leftmost_of_run {segments : List Segment} {rest : Text} (ha : Alternating segments)
    (h : (run spanLines s none rest segments).mismatch = none) :
    ∃ ws, Leftmost spanLines segments ws rest := by
  induction ha generalizing s rest with
  | nil =>
    cases rest with
    | nil => exact ⟨[], leftmost_nil.2 ⟨rfl, rfl⟩⟩
    | cons c t => simp [run, finish, State.fail] at h
  | literal _ _ ih =>
    rw [run_literal] at h
    split at h
    · simp [State.fail] at h
    · rename_i after hp
      obtain ⟨ws, hr⟩ := ih h
      exact ⟨ws, leftmost_literal.2 ⟨after, stripPrefix?_eq_some.1 hp, hr⟩⟩
  | last =>
    rw [run_last] at h
    split at h
    · simp [State.fail] at h
    · rename_i hx
      exact ⟨[rest], leftmost_last.2 ⟨rfl, crosses_eq_false.1 (by simpa using hx)⟩⟩
  | gap _ _ ih =>
    rw [run_gap] at h
    split at h
    · simp [State.fail] at h
    · rename_i gap after hb
      split at h
      · simp [State.fail] at h
      · rename_i hx
        obtain ⟨ws, hr⟩ := ih h
        exact ⟨gap :: ws, leftmost_gap.2 ⟨gap, ws, after, rfl, breakOn_eq_some.1 hb,
          crosses_eq_false.1 (by simpa using hx), hr⟩⟩

/-- Output remains behind the last literal. -/
def Trailing (r : Scan) : Prop := ∃ m, r.mismatch = some m ∧ m.kind = .unexpectedTrailingOutput

/-- The scan keeps up with every assignment. It may stand before the place that the
assignment has reached, by a text `d` that a wildcard may take; the next wildcard takes `d`
with its own text. Only at the end of the output can `d` be left over. -/
theorem run_of_assigns {segments : List Segment} {ws : List Text} {d t : Text}
    (ha : Alternating segments) (h : Assigns spanLines segments ws t) (hd : Allowed spanLines d)
    (hn : d = [] ∨ NoLiteralFirst segments) :
    (run spanLines s none (d ++ t) segments).mismatch = none ∨
      Trailing (run spanLines s none (d ++ t) segments) ∧
        (d ≠ [] ∨ segments.any isWildcard = true) ∧ endInWildcard segments = false := by
  induction ha generalizing s ws d t with
  | nil =>
    obtain ⟨rfl, rfl⟩ := assigns_nil.1 h
    cases d with
    | nil => exact .inl rfl
    | cons c d => exact .inr ⟨⟨_, rfl, rfl⟩, by simp, rfl⟩
  | literal hl _ ih =>
    obtain ⟨rest, rfl, hr⟩ := assigns_literal.1 h
    obtain rfl : d = [] := by simpa using hn
    rw [List.nil_append, run_literal, stripPrefix?_append]
    rcases ih (d := []) hr (allowed_nil _) (.inl rfl) with hp | ⟨ht, hw, he⟩
    · exact .inl hp
    · refine .inr ⟨ht, .inr ?_, by rw [endInWildcard_literal, he]⟩
      simpa [isWildcard] using hw
  | last =>
    obtain ⟨w, ws', rest, rfl, rfl, hw, hr⟩ := assigns_wildcard.1 h
    obtain ⟨rfl, rfl⟩ := assigns_nil.1 hr
    have hdw : Allowed spanLines (d ++ (w ++ [])) := by
      rw [List.append_nil]
      exact allowed_append.2 ⟨hd, hw⟩
    rw [run_last, crosses_eq_false.2 hdw]
    exact .inl rfl
  | @gap name l segments hl _ ih =>
    obtain ⟨w, ws', t', rfl, rfl, hw, h'⟩ := assigns_wildcard.1 h
    obtain ⟨rest, rfl, hr⟩ := assigns_literal.1 h'
    obtain ⟨gap, e, after, hge, hla, hf⟩ := exists_firstOccurrence l (d ++ w) rest
    have hdw : Allowed spanLines (gap ++ e) := hge ▸ allowed_append.2 ⟨hd, hw⟩
    obtain ⟨hgap, hallow⟩ := allowed_append.1 hdw
    -- the scan is now behind by what follows the literal up to the end of the assigned one
    obtain ⟨d', hd'⟩ : l <+: e ++ l :=
      List.prefix_of_prefix_length_le ⟨after, rfl⟩ ⟨rest, hla.symm⟩ (by simp)
    have hafter : after = d' ++ rest := by
      rw [← hd', List.append_assoc] at hla
      exact List.append_cancel_left hla
    have heq : d ++ (w ++ (l ++ rest)) = d ++ w ++ l ++ rest := by simp
    rw [heq, run_gap_found hf hgap, hafter]
    rcases ih hr (hallow.of_shift hd'.symm) (.inr hl) with hp | ⟨ht, -, he⟩
    · exact .inl hp
    · refine .inr ⟨ht, .inr (by simp [isWildcard]), ?_⟩
      rw [endInWildcard_cons_cons, endInWildcard_literal, he]

end Scan

namespace Pattern
open Segment

lemma matchOutput_passed {p : Pattern} {output : Text} :
    (p.matchOutput output).passed = true ↔ (p.matchOutput output).mismatch = none := by
  simp [MatchResult.passed]

/-- Output that some assignment spells passes or is longer than the scan expects, and it
passes when the pattern is one literal or ends in a wildcard. So the other mismatches are
final: nothing that the wildcards could take spells the output. -/
theorem matchOutput_complete {comparison : Comparison} {expected : List Text} {p : Pattern}
    (hp : parse comparison expected = .ok p) (output : Text) :
    ((∃ ws, Assigns comparison.spanLines p.segments ws (normalize comparison.normWs output)) →
      (p.matchOutput output).passed = true ∨
        ∃ m, (p.matchOutput output).mismatch = some m ∧ m.kind = .unexpectedTrailingOutput) ∧
    (∀ m, (p.matchOutput output).mismatch = some m →
      m.kind = .literalNotFound ∨ m.kind = .wildcardSpansLines →
      ¬ ∃ ws, Assigns comparison.spanLines p.segments ws (normalize comparison.normWs output)) ∧
    (p.hasWildcards = false ∨ endInWildcard p.segments = true →
      ((p.matchOutput output).passed = true ↔
        ∃ ws, Assigns comparison.spanLines p.segments ws
          (normalize comparison.normWs output))) := by
  obtain ⟨rfl, ha, -⟩ := parse_parsed hp
  have found : ∀ {ws},
      Assigns p.comparison.spanLines p.segments ws (normalize p.comparison.normWs output) →
      (p.matchOutput output).mismatch = none ∨
        (∃ m, (p.matchOutput output).mismatch = some m ∧ m.kind = .unexpectedTrailingOutput) ∧
          p.hasWildcards = true ∧ endInWildcard p.segments = false := by
    intro ws h
    rcases Scan.run_of_assigns (s := Scan.start) (d := []) ha h (allowed_nil _) (.inl rfl) with
      hn | ⟨ht, hw, he⟩
    · exact .inl hn
    · exact .inr ⟨ht, by simpa [hasWildcards] using hw, he⟩
  refine ⟨?_, ?_, ?_⟩
  · rintro ⟨ws, h⟩
    rcases found h with hn | ⟨ht, -⟩
    · exact .inl (matchOutput_passed.2 hn)
    · exact .inr ht
  · rintro m hm hk ⟨ws, h⟩
    rcases found h with hn | ⟨⟨m', hm', hk'⟩, -⟩
    · simp [hn] at hm
    · obtain rfl : m = m' := Option.some.inj (hm.symm.trans hm')
      simp [hk'] at hk
  · intro hc
    rw [matchOutput_passed]
    constructor
    · intro hn
      obtain ⟨ws, h⟩ := Scan.leftmost_of_run (s := Scan.start) ha hn
      exact ⟨ws, h.toAssigns⟩
    · rintro ⟨ws, h⟩
      rcases found h with hn | ⟨-, hw, he⟩
      · exact hn
      · simp [hw, he] at hc

/-- The scan stops at the first `c`; the assignment of `bcb` needs the second one. -/
theorem matchOutput_complete_second_anchor :
    ∃ p, parse .standard ["a<...>c".toList] = .ok p ∧
      Assigns true p.segments ["bcb".toList] (normalize false "abcbc".toList) ∧
      ((p.matchOutput "abcbc".toList).passed = true ∨
        ∃ m, (p.matchOutput "abcbc".toList).mismatch = some m ∧
          m.kind = .unexpectedTrailingOutput) := by
  have hs : Token.scan "a<...>c".toList = [.char 'a', .tag .any, .char 'c'] := by decide +kernel
  have hp : parse .standard ["a<...>c".toList] =
      .ok ⟨[.literal ['a'], .wildcard none, .literal ['c']], .standard⟩ :=
    parse_standard ["a<...>c".toList] hs rfl
  have hw : Assigns true [.literal ['a'], .wildcard none, .literal ['c']] ["bcb".toList]
      (normalize false "abcbc".toList) := ⟨rfl, by simp [Allowed]⟩
  exact ⟨_, hp, hw, (matchOutput_complete hp "abcbc".toList).1 ⟨_, hw⟩⟩

/-- Output passes exactly when the leftmost assignment of the pattern spells it. There is at
most one, and what is captured are its texts under the names of their wildcards, which are
distinct. -/
theorem passed_iff_leftmost {comparison : Comparison} {expected : List Text} {p : Pattern}
    (hp : parse comparison expected = .ok p) (output : Text) :
    ((p.matchOutput output).passed = true ↔
      ∃ ws, Leftmost comparison.spanLines p.segments ws (normalize comparison.normWs output)) ∧
    ∀ ws, Leftmost comparison.spanLines p.segments ws (normalize comparison.normWs output) →
      (∀ ws', Leftmost comparison.spanLines p.segments ws'
        (normalize comparison.normWs output) → ws' = ws) ∧
      (p.matchOutput output).captures = bindings p.segments ws ∧
      (p.matchOutput output).captures.map Prod.fst = names p.segments ∧
      (names p.segments).Nodup := by
  obtain ⟨rfl, ha, hnd⟩ := parse_parsed hp
  refine ⟨?_, ?_⟩
  · rw [matchOutput_passed]
    constructor
    · exact fun hn => Scan.leftmost_of_run (s := Scan.start) ha hn
    · rintro ⟨ws, h⟩
      exact congrArg Scan.mismatch (Scan.run_of_leftmost (s := Scan.start) ha h)
  · intro ws h
    have hc : (p.matchOutput output).captures = bindings p.segments ws :=
      congrArg Scan.captures (Scan.run_of_leftmost (s := Scan.start) ha h)
    exact ⟨fun ws' h' => h'.unique ha h, hc, by rw [hc, bindings_names h.spells], hnd⟩

/-- The first wildcard ends at the first dash and the last one takes the rest. -/
theorem passed_iff_leftmost_two_names :
    ∃ p, parse .standard ["<x>-<rest>".toList] = .ok p ∧
      Leftmost true p.segments ["a".toList, "b-c".toList] (normalize false "a-b-c".toList) ∧
      (p.matchOutput "a-b-c".toList).passed = true ∧
      (p.matchOutput "a-b-c".toList).captures =
        [("x".toList, "a".toList), ("rest".toList, "b-c".toList)] := by
  have hs : Token.scan "<x>-<rest>".toList =
      [.tag (.named ['x']), .char '-', .tag (.named "rest".toList)] := by decide +kernel
  have hp : parse .standard ["<x>-<rest>".toList] =
      .ok ⟨[.wildcard (some ['x']), .literal ['-'], .wildcard (some "rest".toList)],
        .standard⟩ := parse_standard ["<x>-<rest>".toList] hs rfl
  have hl : Leftmost true
      [.wildcard (some ['x']), .literal ['-'], .wildcard (some "rest".toList)]
      ["a".toList, "b-c".toList] (normalize false "a-b-c".toList) :=
    leftmost_gap.2 ⟨['a'], ["b-c".toList], "b-c".toList, rfl, breakOn_eq_some.1 rfl,
      by simp [Allowed], leftmost_last.2 ⟨rfl, by simp [Allowed]⟩⟩
  obtain ⟨hiff, hunique⟩ := passed_iff_leftmost hp "a-b-c".toList
  exact ⟨_, hp, hl, hiff.2 ⟨_, hl⟩, (hunique _ hl).2.1⟩

end Pattern

end Exemplar.Expected
