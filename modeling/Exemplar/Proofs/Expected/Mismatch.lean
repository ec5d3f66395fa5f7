import Exemplar.Proofs.Expected.Matching

/-!
# What a mismatch says

A scan that fails has passed some segments. They spell the output up to the reported offset
with the texts that their wildcards took, and those are the captures of the result. There are
five ways to get stuck before the other segments: the literal that begins the pattern is not
there, a literal behind a wildcard occurs nowhere in what is left, it occurs only behind a line
break that the wildcard may not take, a wildcard at the end may not take what is left, or
nothing is there to take it.
-/
namespace Exemplar.Expected
open Text

namespace Scan
open Segment

/-- Why a scan that has passed `n` segments, and stands at an offset before the text `rest`,
cannot pass the segments that are left. -/
inductive Stuck (spanLines : Bool) (n offset : Nat) (rest : Text) :
    List Segment → Mismatch → Prop
  | lead {l : Text} {segments : List Segment} (h : ¬ l <+: rest) :
      Stuck spanLines n offset rest (.literal l :: segments) ⟨n, l, offset, .literalNotFound⟩
  | missing {name : Option Text} {l : Text} {segments : List Segment} (h : ¬ l <:+: rest) :
      Stuck spanLines n offset rest (.wildcard name :: .literal l :: segments)
        ⟨n + 1, l, offset, .literalNotFound⟩
  | gap {name : Option Text} {l : Text} {segments : List Segment} {w after : Text}
      (found : FirstOccurrence l rest w after) (h : ¬ Allowed spanLines w) :
      Stuck spanLines n offset rest (.wildcard name :: .literal l :: segments)
        ⟨n + 1, l, offset, .wildcardSpansLines⟩
  | last {name : Option Text} (h : ¬ Allowed spanLines rest) :
      Stuck spanLines n offset rest [.wildcard name] ⟨n, [], offset, .wildcardSpansLines⟩
  | trailing (h : rest ≠ []) :
      Stuck spanLines n offset rest [] ⟨n, [], offset, .unexpectedTrailingOutput⟩

/-- A scan of the text `t` with some segments, begun in the state `s`, passes the segments
`done` on the text `before` and gets stuck with the segments `todo` on the text `rest`. -/
structure Halts (spanLines : Bool) (s : State) (segments : List Segment) (t : Text)
    (captures : Captures) (m : Mismatch) (done todo : List Segment) (ws : List Text)
    (before rest : Text) : Prop where
  parts : segments = done ++ todo
  spells : t = before ++ rest
  filled : Leftmost spanLines done ws before
  captured : captures = s.captures ++ bindings done ws
  stuck : Stuck spanLines (s.segment + done.length) (s.offset + byteSize before) rest todo m
  /-- No literal is behind the literal that was passed last. -/
  behind : done = [] ∨ NoLiteralFirst todo

variable {spanLines : Bool} {s : State}

/-- A scan that gets stuck at once has passed nothing. -/
lemma Stuck.halts {segments : List Segment} {t : Text} {m : Mismatch}
    (h : Stuck spanLines s.segment s.offset t segments m) :
    Halts spanLines s segments t s.captures m [] segments [] [] t where
  parts := rfl
  spells := rfl
  filled := leftmost_nil.2 ⟨rfl, rfl⟩
  captured := by simp [bindings]
  stuck := h
  behind := .inl rfl

/-- Segments that are passed first come before those that are passed later. -/
lemma Halts.behind_passed {s' : State} {segments done todo : List Segment}
    {t u before rest : Text} {ws : List Text} {captures : Captures} {m : Mismatch}
    (first : List Segment) (vs : List Text) (taken : Captures)
    (h : Halts spanLines s' segments t captures m done todo ws before rest)
    (hs : s' = ⟨s.segment + first.length, s.offset + byteSize u, s.captures ++ taken⟩)
    (hn : NoLiteralFirst segments)
    (hf : Leftmost spanLines (first ++ done) (vs ++ ws) (u ++ before))
    (hb : bindings (first ++ done) (vs ++ ws) = taken ++ bindings done ws) :
    Halts spanLines s (first ++ segments) (u ++ t) captures m (first ++ done) todo (vs ++ ws)
      (u ++ before) rest where
  parts := by rw [h.parts, List.append_assoc]
  spells := by rw [h.spells, List.append_assoc]
  filled := hf
  captured := by rw [h.captured, hs, hb, List.append_assoc]
  stuck := by
    have hstuck := h.stuck
    rw [hs] at hstuck
    simpa only [List.length_append, byteSize_append, Nat.add_assoc] using hstuck
  behind := by
    right
    rcases h.behind with rfl | hb
    · rwa [h.parts] at hn
    · exact hb

/-- A scan that fails gets stuck somewhere behind segments that it has passed. -/
theorem exists_halts {segments : List Segment} {t : Text} {m : Mismatch}
    (ha : Alternating segments) (h : (run spanLines s none t segments).mismatch = some m) :
    ∃ done todo ws before rest, Halts spanLines s segments t
      (run spanLines s none t segments).captures m done todo ws before rest := by
  induction ha generalizing s t with
  | nil =>
    cases t with
    | nil => simp [run, finish] at h
    | cons c t =>
      obtain rfl : ⟨s.segment, [], s.offset, .unexpectedTrailingOutput⟩ = m := by
        simpa [run, finish, State.fail] using h
      exact ⟨_, _, _, _, _, (Stuck.trailing (by simp)).halts⟩
  | @literal l segments hn _ ih =>
    rw [run_literal] at h ⊢
    cases hp : stripPrefix? l t with
    | none =>
      obtain rfl : ⟨s.segment, l, s.offset, .literalNotFound⟩ = m := by
        simpa [hp, State.fail] using h
      exact ⟨_, _, _, _, _, (Stuck.lead (stripPrefix?_eq_none.1 hp)).halts⟩
    | some after =>
      simp only [hp] at h ⊢
      obtain rfl := stripPrefix?_eq_some.1 hp
      obtain ⟨done, todo, ws, before, rest, hh⟩ := ih h
      have hf : Leftmost spanLines (.literal l :: done) ws (l ++ before) :=
        leftmost_literal.2 ⟨before, rfl, hh.filled⟩
      exact ⟨_, _, _, _, _, hh.behind_passed [.literal l] [] [] (by simp) hn hf rfl⟩
  | @last name =>
    rw [run_last] at h ⊢
    cases hx : crosses spanLines t with
    | false => simp [hx] at h
    | true =>
      obtain rfl : ⟨s.segment, [], s.offset, .wildcardSpansLines⟩ = m := by
        simpa [hx, State.fail] using h
      have hw : ¬ Allowed spanLines t := by simp [← crosses_eq_false, hx]
      exact ⟨_, _, _, _, _, (Stuck.last hw).halts⟩
  | @gap name l segments hn _ ih =>
    rw [run_gap] at h ⊢
    cases hb : breakOn l t with
    | none =>
      obtain rfl : ⟨s.segment + 1, l, s.offset, .literalNotFound⟩ = m := by
        simpa [hb, State.fail] using h
      exact ⟨_, _, _, _, _, (Stuck.missing (breakOn_eq_none.1 hb)).halts⟩
    | some found =>
      obtain ⟨w, after⟩ := found
      have hfirst := breakOn_eq_some.1 hb
      cases hx : crosses spanLines w with
      | true =>
        obtain rfl : ⟨s.segment + 1, l, s.offset, .wildcardSpansLines⟩ = m := by
          simpa [hb, hx, State.fail] using h
        have hw : ¬ Allowed spanLines w := by simp [← crosses_eq_false, hx]
        simp only [hx, if_true]
        exact ⟨_, _, _, _, _, (Stuck.gap hfirst hw).halts⟩
      | false =>
        simp only [hb, hx, Bool.false_eq_true, if_false] at h ⊢
        obtain ⟨done, todo, ws, before, rest, hh⟩ := ih h
        have hf : Leftmost spanLines (.wildcard name :: .literal l :: done) (w :: ws)
            (w ++ l ++ before) := by
          refine leftmost_gap.2 ⟨w, ws, before, rfl, ?_, crosses_eq_false.1 hx, hh.filled⟩
          rw [hfirst.spells, hh.spells, ← List.append_assoc] at hfirst
          exact hfirst.of_append
        rw [hfirst.spells]
        exact ⟨_, _, _, _, _, hh.behind_passed [.wildcard name, .literal l] [w] _
          (by simp [capture_eq, Nat.add_assoc]) hn hf (bindings_gap name l w done ws)⟩

section
variable {n offset : Nat} {rest : Text} {todo : List Segment} {m : Mismatch}

lemma Stuck.offset_eq (h : Stuck spanLines n offset rest todo m) : m.offset = offset := by
  cases h <;> rfl

lemma Stuck.literalNotFound (h : Stuck spanLines n offset rest todo m)
    (hk : m.kind = .literalNotFound) :
    ∃ segments,
      (m.segment = n ∧ todo = .literal m.literal :: segments ∧ ¬ m.literal <+: rest) ∨
      ∃ name, m.segment = n + 1 ∧ todo = .wildcard name :: .literal m.literal :: segments ∧
        ¬ m.literal <:+: rest := by
  cases h with
  | lead h => exact ⟨_, .inl ⟨rfl, rfl, h⟩⟩
  | missing h => exact ⟨_, .inr ⟨_, rfl, rfl, h⟩⟩
  | gap | last | trailing => cases hk

lemma Stuck.wildcardSpansLines (h : Stuck spanLines n offset rest todo m)
    (hk : m.kind = .wildcardSpansLines) :
    spanLines = false ∧
      ((∃ name segments w after, m.segment = n + 1 ∧
        todo = .wildcard name :: .literal m.literal :: segments ∧
        FirstOccurrence m.literal rest w after ∧ '\n' ∈ w) ∨
      ∃ name, m.segment = n ∧ todo = [.wildcard name] ∧ m.literal = [] ∧ '\n' ∈ rest) := by
  cases h with
  | lead | missing | trailing => cases hk
  | gap found h =>
    obtain ⟨hs, hw⟩ := not_allowed.1 h
    exact ⟨hs, .inl ⟨_, _, _, _, rfl, rfl, found, hw⟩⟩
  | last h =>
    obtain ⟨hs, hw⟩ := not_allowed.1 h
    exact ⟨hs, .inr ⟨_, rfl, rfl, rfl, hw⟩⟩

lemma Stuck.unexpectedTrailingOutput (h : Stuck spanLines n offset rest todo m)
    (hk : m.kind = .unexpectedTrailingOutput) :
    m.segment = n ∧ todo = [] ∧ m.literal = [] ∧ rest ≠ [] := by
  cases h with
  | lead | missing | gap | last => cases hk
  | trailing h => exact ⟨rfl, rfl, rfl, h⟩

end

end Scan

/-- What a mismatch says of a result. The pattern passed the segments `done` and stopped before
the segments `todo`; the wildcards that were passed took the texts `ws`. -/
structure Mismatch.Explains (p : Pattern) (r : MatchResult) (m : Mismatch)
    (done todo : List Segment) (ws : List Text) (before rest : Text) : Prop where
  parts : p.segments = done ++ todo
  /-- The output up to the offset is what the passed segments spell. -/
  spells : r.actual = before ++ rest
  offset : m.offset = byteSize before
  filled : Segment.Leftmost p.comparison.spanLines done ws before
  captured : r.captures = Segment.bindings done ws
  literalNotFound : m.kind = .literalNotFound → ∃ segments,
    (m.segment = 0 ∧ done = [] ∧ todo = .literal m.literal :: segments ∧
      ¬ m.literal <+: r.actual) ∨
    ∃ name, m.segment = done.length + 1 ∧
      todo = .wildcard name :: .literal m.literal :: segments ∧ ¬ m.literal <:+: rest
  wildcardSpansLines : m.kind = .wildcardSpansLines → p.comparison.spanLines = false ∧
    ((∃ name segments w after, m.segment = done.length + 1 ∧
      todo = .wildcard name :: .literal m.literal :: segments ∧
      FirstOccurrence m.literal rest w after ∧ '\n' ∈ w) ∨
    ∃ name, m.segment + 1 = p.segments.length ∧ todo = [.wildcard name] ∧ m.literal = [] ∧
      '\n' ∈ rest)
  unexpectedTrailingOutput : m.kind = .unexpectedTrailingOutput →
    m.segment = p.segments.length ∧ todo = [] ∧ m.literal = [] ∧ rest ≠ []

namespace Pattern
open Segment

lemma exists_mismatch {p : Pattern} {output : Text}
    (h : (p.matchOutput output).passed = false) :
    ∃ m, (p.matchOutput output).mismatch = some m := by
  rw [← Option.ne_none_iff_exists']
  intro hn
  rw [matchOutput_passed.2 hn] at h
  cases h

/-- Output that does not match is explained by the mismatch in the result. -/
theorem mismatch_explains {comparison : Comparison} {expected : List Text} {p : Pattern}
    (hp : parse comparison expected = .ok p) (output : Text)
    (hfail : (p.matchOutput output).passed = false) :
    p.comparison = comparison ∧
      (p.matchOutput output).actual = normalize comparison.normWs output ∧
      ∃ m done todo ws before rest, (p.matchOutput output).mismatch = some m ∧
        m.Explains p (p.matchOutput output) done todo ws before rest := by
  obtain ⟨rfl, ha, -⟩ := parse_parsed hp
  obtain ⟨m, hm⟩ := exists_mismatch hfail
  obtain ⟨done, todo, ws, before, rest, hh⟩ := Scan.exists_halts (s := Scan.start) ha hm
  have hstuck := hh.stuck
  simp only [Scan.start, Nat.zero_add] at hstuck
  refine ⟨rfl, rfl, m, done, todo, ws, before, rest, hm, hh.parts, hh.spells, hstuck.offset_eq,
    hh.filled, hh.captured, fun hk => ?_, fun hk => ?_, fun hk => ?_⟩
  · obtain ⟨segments, ⟨hm, htodo, hl⟩ | hrest⟩ := hstuck.literalNotFound hk
    · -- a literal without a wildcard before it leads the pattern
      have hdone : done = [] := by
        rcases hh.behind with hd | hn
        · exact hd
        · simp [htodo] at hn
      subst hdone
      obtain ⟨-, rfl⟩ := leftmost_nil.1 hh.filled
      have hrest : (p.matchOutput output).actual = rest := hh.spells
      exact ⟨segments, .inl ⟨hm, rfl, htodo, by rwa [hrest]⟩⟩
    · exact ⟨segments, .inr hrest⟩
  · obtain ⟨hs, hgap | ⟨name, hm, htodo, hrest⟩⟩ := hstuck.wildcardSpansLines hk
    · exact ⟨hs, .inl hgap⟩
    · exact ⟨hs, .inr ⟨name, by simp [hh.parts, htodo, hm], htodo, hrest⟩⟩
  · obtain ⟨hm, htodo, hrest⟩ := hstuck.unexpectedTrailingOutput hk
    exact ⟨by simp [hh.parts, htodo, hm], htodo, hrest⟩

/-- The first wildcard was passed with the dash behind it; a plus is not in the rest. -/
theorem mismatch_explains_second_wildcard :
    ∃ p, parse .standard ["<x>-<y>+".toList] = .ok p ∧
      (p.matchOutput "a-b".toList).passed = false ∧
      (p.matchOutput "a-b".toList).captures = [("x".toList, "a".toList)] ∧
      ∃ m done todo ws before rest, (p.matchOutput "a-b".toList).mismatch = some m ∧
        m = ⟨3, "+".toList, 2, .literalNotFound⟩ ∧
        m.Explains p (p.matchOutput "a-b".toList) done todo ws before rest := by
  have hs : Token.scan "<x>-<y>+".toList =
      [.tag (.named ['x']), .char '-', .tag (.named ['y']), .char '+'] := by decide +kernel
  have hp : parse .standard ["<x>-<y>+".toList] =
      .ok ⟨[.wildcard (some ['x']), .literal ['-'], .wildcard (some ['y']), .literal ['+']],
        .standard⟩ := parse_standard ["<x>-<y>+".toList] hs rfl
  obtain ⟨-, -, m, done, todo, ws, before, rest, hm, h⟩ :=
    mismatch_explains hp "a-b".toList (by decide)
  refine ⟨_, hp, by decide, by decide, m, done, todo, ws, before, rest, hm, ?_, h⟩
  refine (Option.some.inj hm).symm.trans ?_
  decide

end Pattern

end Exemplar.Expected
