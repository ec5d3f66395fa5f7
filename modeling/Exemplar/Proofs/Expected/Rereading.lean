import Exemplar.Proofs.Expected.NormalForm
import Exemplar.Proofs.Expected.Rendering

/-!
# Reading a rendered pattern

A pattern that is rendered without captures spells the tokens of its text, but of tags side by
side only one. The text that is left out stands between an opening and a closing bracket, so it
changes neither which tokens are recognised nor whether the text is in normal form. Rendered
patterns are therefore read back, and pasting values over the tags of the rendered pattern is
rendering the pattern with these values.
-/
namespace Exemplar.Expected
open Text

namespace Tag

def ofName : Option Text → Tag
  | none => any
  | some name => named name

lemma ofName_name? (t : Tag) : ofName t.name? = t := by
  cases t <;> rfl

/-- The tag, or if it has no name the other one. -/
def or : Tag → Tag → Tag
  | any, t => t
  | named name, _ => named name

lemma ofName_or (t : Tag) (name : Option Text) :
    ofName (t.name? <|> name) = t.or (ofName name) := by
  cases t <;> rfl

lemma Proper.or {t t' : Tag} (h : t.Proper) (h' : t'.Proper) : (t.or t').Proper := by
  cases t with
  | any => exact h'
  | named name => exact h

end Tag

namespace Segment

/-- What a segment is written with when nothing is captured. -/
def tokens : Segment → List Token
  | literal l => l.map .char
  | wildcard name => [.tag (.ofName name)]

def spelled (segments : List Segment) : List Token := segments.flatMap tokens

lemma flatMap_text_tokens (s : Segment) : s.tokens.flatMap Token.text = s.render [] := by
  rcases s with l | _ | name
  · rw [tokens, List.flatMap_map]
    exact List.flatMap_singleton' l
  · simp [tokens, Token.text, Tag.ofName, render]
  · simp [tokens, Token.text, Tag.ofName, render, Captures.get?]

lemma flatMap_pasted_tokens {captures : Captures} (h : captures.get? Tag.dots = none)
    (s : Segment) : s.tokens.flatMap (Token.pasted captures) = s.render captures := by
  rcases s with l | _ | name
  · rw [tokens, List.flatMap_map]
    exact List.flatMap_singleton' l
  · simp [tokens, Token.pasted, Tag.ofName, Tag.label, render, h]
  · simp [tokens, Token.pasted, Tag.ofName, Tag.label, render]

lemma names_spelled (segments : List Segment) :
    Token.names (spelled segments) = names segments := by
  induction segments with
  | nil => rfl
  | cons s segments ih =>
    have hcons : Token.names (spelled (s :: segments)) =
        Token.names s.tokens ++ Token.names (spelled segments) := List.filterMap_append
    rw [hcons, ih]
    rcases s with l | _ | name
    · rw [tokens, Token.names_map_char]
      rfl
    · rfl
    · rfl

lemma spelled_push_char (c : Char) (segments : List Segment) :
    spelled (push (.char c) segments) = .char c :: spelled segments := by
  rcases segments with _ | ⟨_ | _, _⟩ <;> rfl

/-- A tag in front is written in front, or one of it and the tag behind it is written. -/
lemma spelled_push_tag (t : Tag) (segments : List Segment) :
    spelled (push (.tag t) segments) = .tag t :: spelled segments ∨
      ∃ t' rest, spelled segments = .tag t' :: rest ∧
        spelled (push (.tag t) segments) = .tag (t.or t') :: rest := by
  rcases segments with _ | ⟨l | name, segments⟩
  · left
    show [Token.tag (.ofName t.name?)] = _
    rw [Tag.ofName_name?]
    rfl
  · left
    show Token.tag (.ofName t.name?) :: _ = _
    rw [Tag.ofName_name?]
    rfl
  · right
    refine ⟨.ofName name, spelled segments, rfl, ?_⟩
    rw [← Tag.ofName_or]
    rfl

/-- Tags that are put in front one after the other are one tag. -/
lemma push_push_tag (t t' : Tag) (segments : List Segment) :
    push (.tag t) (push (.tag t') segments) = push (.tag (t.or t')) segments := by
  rcases segments with _ | ⟨l | name, segments⟩ <;> cases t <;> rfl

end Segment

/-- The texts are the same, or they are the same before an opening bracket of both. -/
def SameLead (s t : Text) : Prop := s = t ∨ ∃ u v v', s = u ++ '<' :: v ∧ t = u ++ '<' :: v'

namespace SameLead

variable {s t : Text}

lemma cons (h : SameLead s t) (c : Char) : SameLead (c :: s) (c :: t) := by
  rcases h with rfl | ⟨u, v, v', rfl, rfl⟩
  · exact .inl rfl
  · exact .inr ⟨c :: u, v, v', rfl, rfl⟩

lemma head?_eq (h : SameLead s t) : s.head? = t.head? := by
  rcases h with rfl | ⟨u, v, v', rfl, rfl⟩
  · rfl
  · cases u <;> rfl

lemma read?_eq_none (h : SameLead s t) (hs : Tag.read? s = none) : Tag.read? t = none := by
  rcases h with rfl | ⟨u, v, v', rfl, rfl⟩
  · exact hs
  · exact (Tag.read?_append Tag.breaks_bracket).2 ((Tag.read?_append Tag.breaks_bracket).1 hs)

end SameLead

namespace Segment

lemma sameLead_spelled (tokens : List Token) :
    SameLead (tokens.flatMap Token.text) ((spelled (ofTokens tokens)).flatMap Token.text) := by
  induction tokens with
  | nil => exact .inl rfl
  | cons token tokens ih =>
    show SameLead _ ((spelled (push token (ofTokens tokens))).flatMap Token.text)
    cases token with
    | char c =>
      rw [spelled_push_char]
      exact ih.cons c
    | tag t =>
      rcases spelled_push_tag t (ofTokens tokens) with he | ⟨t', rest, -, he⟩
      · rw [he]
        exact .inr ⟨[], _, _, rfl, rfl⟩
      · rw [he]
        exact .inr ⟨[], _, _, rfl, rfl⟩

/-- Leaving out tags makes no tag out of other characters. -/
theorem legible_spelled {tokens : List Token} (h : Token.Legible tokens) :
    Token.Legible (spelled (ofTokens tokens)) := by
  induction tokens with
  | nil => trivial
  | cons token tokens ih =>
    show Token.Legible (spelled (push token (ofTokens tokens)))
    cases token with
    | char c =>
      rw [spelled_push_char]
      exact ⟨fun hc => (sameLead_spelled tokens).read?_eq_none (h.1 hc), ih h.2⟩
    | tag t =>
      have hrest := ih h.2
      rcases spelled_push_tag t (ofTokens tokens) with he | ⟨t', rest, hs, he⟩
      · rw [he]
        exact ⟨h.1, hrest⟩
      · rw [hs] at hrest
        rw [he]
        exact ⟨h.1.or hrest.1, hrest.2⟩

/-- Leaving out tags keeps the normal form. -/
theorem settled_spelled {words : Bool} {tokens : List Token} (hl : Token.Legible tokens)
    (h : Settled words (tokens.flatMap Token.text)) :
    Settled words ((spelled (ofTokens tokens)).flatMap Token.text) := by
  induction tokens with
  | nil => trivial
  | cons token tokens ih =>
    show Settled words ((spelled (push token (ofTokens tokens))).flatMap Token.text)
    cases token with
    | char c =>
      have hfits : Fits words c (tokens.flatMap Token.text).head? := h.1
      rw [(sameLead_spelled tokens).head?_eq] at hfits
      rw [spelled_push_char]
      exact ⟨hfits, ih hl.2 h.2⟩
    | tag t =>
      have hlegible := legible_spelled hl.2
      have hrest := ih hl.2 (Settled.suffix h)
      rcases spelled_push_tag t (ofTokens tokens) with he | ⟨t', rest, hs, he⟩
      · rw [he]
        exact settled_append hl.1.unblank hrest
      · rw [hs] at hrest hlegible
        rw [he]
        exact settled_append (hl.1.or hlegible.1).unblank (Settled.suffix hrest)

/-- What is written is read as the same segments. -/
theorem ofTokens_spelled (tokens : List Token) :
    ofTokens (spelled (ofTokens tokens)) = ofTokens tokens := by
  induction tokens with
  | nil => rfl
  | cons token tokens ih =>
    show ofTokens (spelled (push token (ofTokens tokens))) = push token (ofTokens tokens)
    cases token with
    | char c =>
      rw [spelled_push_char]
      exact congrArg (push (.char c)) ih
    | tag t =>
      rcases spelled_push_tag t (ofTokens tokens) with he | ⟨t', rest, hs, he⟩
      · rw [he]
        exact congrArg (push (.tag t)) ih
      · rw [hs] at ih
        rw [he, ← ih]
        exact (push_push_tag t t' (ofTokens rest)).symm

/-- Without tags side by side nothing is left out. -/
lemma spelled_ofTokens {tokens : List Token}
    (h : ∀ s a b s', tokens ≠ s ++ .tag a :: .tag b :: s') :
    spelled (ofTokens tokens) = tokens := by
  induction tokens with
  | nil => rfl
  | cons token tokens ih =>
    have hrest := ih fun s a b s' he => h (token :: s) a b s' (by rw [he]; rfl)
    show spelled (push token (ofTokens tokens)) = _
    cases token with
    | char c => rw [spelled_push_char, hrest]
    | tag t =>
      rcases spelled_push_tag t (ofTokens tokens) with he | ⟨t', rest, hs, -⟩
      · rw [he, hrest]
      · rw [hrest] at hs
        exact absurd (by rw [hs]; rfl) (h [] t t' rest)

/-- No literal is empty, literals and wildcards take turns, and no name occurs twice. -/
structure Canonical (segments : List Segment) : Prop where
  nonempty : .literal [] ∉ segments
  alternates : segments.IsChain fun s s' => s.isWildcard ≠ s'.isWildcard
  distinct : (names segments).Nodup

lemma literal_nil_not_mem_push {segments : List Segment} (h : .literal [] ∉ segments)
    (token : Token) : .literal [] ∉ push token segments := by
  rcases segments with _ | ⟨l | name, segments⟩ <;> cases token <;> simp_all [push]

lemma literal_nil_not_mem_ofTokens (tokens : List Token) : .literal [] ∉ ofTokens tokens := by
  induction tokens with
  | nil => simp [ofTokens]
  | cons token tokens ih => exact literal_nil_not_mem_push ih token

lemma Alternating.isChain {segments : List Segment} (h : Alternating segments) :
    segments.IsChain fun s s' => s.isWildcard ≠ s'.isWildcard := by
  -- a wildcard is first where no literal is
  have hcons : ∀ {l : Text} {segments : List Segment}, NoLiteralFirst segments →
      segments.IsChain (fun s s' => s.isWildcard ≠ s'.isWildcard) →
      (Segment.literal l :: segments).IsChain fun s s' => s.isWildcard ≠ s'.isWildcard := by
    intro l segments hn hrest
    rcases segments with _ | ⟨m | name, segments⟩
    · exact .singleton _
    · exact absurd hn (noLiteralFirst_literal m segments)
    · exact .cons_cons (by simp [isWildcard]) hrest
  induction h with
  | nil => exact .nil
  | literal hn _ ih => exact hcons hn ih
  | last => exact .singleton _
  | gap hn _ ih => exact .cons_cons (by simp [isWildcard]) (hcons hn ih)

end Segment

/-- Only where tags stand side by side is something left out. -/
lemma Comparison.spelled_tokensOf {comparison : Comparison} {t : Text}
    (h : comparison.tags = true → ¬ TagsTouch t) :
    Segment.spelled (Segment.ofTokens (comparison.tokensOf t)) = comparison.tokensOf t := by
  refine Segment.spelled_ofTokens fun s a b s' he => ?_
  unfold tokensOf at he
  split at he
  · rename_i htags
    exact h htags (tagsTouch_iff.2 ⟨s, a, b, s', he⟩)
  · have hmem : .tag a ∈ t.map Token.char := by simp [he]
    simp at hmem

/-- A rendered pattern is read as what it is written with. -/
lemma Comparison.tokensOf_spelled (comparison : Comparison) (t : Text) :
    comparison.tokensOf
        ((Segment.spelled (Segment.ofTokens (comparison.tokensOf t))).flatMap Token.text) =
      Segment.spelled (Segment.ofTokens (comparison.tokensOf t)) := by
  by_cases ht : comparison.tags = true
  · rw [tokensOf_of_tags ht, tokensOf_of_tags ht]
    exact Token.scan_flatMap_text (Segment.legible_spelled (Token.legible_scan t))
  · rw [spelled_tokensOf fun h => absurd h ht, comparison.flatMap_text_tokensOf]

namespace Pattern
open Segment

lemma render_nil (p : Pattern) : p.render [] = (spelled p.segments).flatMap Token.text := by
  rw [render, spelled, List.flatMap_assoc]
  exact List.flatMap_congr fun s _ => (flatMap_text_tokens s).symm

section
variable {comparison : Comparison} {t : Text} {p : Pattern}
  (hp : ofNormal comparison t = .ok p)
include hp

lemma ofNormal_render_nil : ofNormal comparison (p.render []) = .ok p := by
  obtain ⟨hd, rfl⟩ := ofNormal_eq_ok.1 hp
  rw [render_nil, ofNormal_eq_ok, comparison.tokensOf_spelled t, names_spelled, ofTokens_spelled]
  exact ⟨hd.sublist (names_ofTokens _), rfl⟩

lemma render_nil_eq (ht : comparison.tags = true → ¬ TagsTouch t) : p.render [] = t := by
  obtain ⟨-, rfl⟩ := ofNormal_eq_ok.1 hp
  rw [render_nil, Comparison.spelled_tokensOf ht, comparison.flatMap_text_tokensOf]

lemma inNormalForm_render_nil {words : Bool} (h : InNormalForm words t) :
    InNormalForm words (p.render []) := by
  by_cases ht : comparison.tags = true
  · obtain ⟨-, rfl⟩ := ofNormal_eq_ok.1 hp
    have hscan := Token.flatMap_text_scan t
    have hsame := sameLead_spelled (Token.scan t)
    rw [render_nil, Comparison.tokensOf_of_tags ht]
    refine ⟨settled_spelled (Token.legible_scan t) (by rw [hscan]; exact h.settled), fun hw => ?_⟩
    have hfirst := h.first hw
    rw [NoBlankFirst, ← hsame.head?_eq, hscan]
    exact hfirst
  · rwa [render_nil_eq hp fun h => absurd h ht]

end

/-- The rendered pattern is read back from any lines that spell it. -/
lemma parse_of_joinLines_eq {comparison : Comparison} {expected ls : List Text} {p : Pattern}
    (hp : parse comparison expected = .ok p) (hls : joinLines ls = p.render []) :
    parse comparison ls = .ok p := by
  have hnormal := inNormalForm_render_nil hp (inNormalForm_normalize _ _)
  rw [parse, hls, hnormal.normalize_eq]
  exact ofNormal_render_nil hp

/-- Parsing returns segments in a canonical form, and what the pattern is rendered to without
captures is parsed to the same pattern, as one text or in lines. Where no tags stand side by
side, that is the text that was parsed. -/
theorem parse_canonical {comparison : Comparison} {expected : List Text} {p : Pattern}
    (hp : parse comparison expected = .ok p) :
    Canonical p.segments ∧
    parse comparison [p.render []] = .ok p ∧
    parse comparison (lines (p.render [])) = .ok p ∧
    ((comparison.tags = true → ¬ TagsTouch (normalize comparison.normWs (joinLines expected))) →
      p.render [] = normalize comparison.normWs (joinLines expected)) := by
  have hparsed := parse_parsed hp
  have hnormal := inNormalForm_render_nil hp (inNormalForm_normalize _ _)
  refine ⟨⟨?_, hparsed.alternating.isChain, hparsed.distinct⟩, ?_, ?_, ?_⟩
  · obtain ⟨-, rfl⟩ := ofNormal_eq_ok.1 hp
    exact literal_nil_not_mem_ofTokens _
  · exact parse_of_joinLines_eq hp rfl
  · exact parse_of_joinLines_eq hp hnormal.joinLines_lines
  · exact render_nil_eq hp

/-- Of two tags the one with a name stays; a stray bracket stays before a tag. -/
theorem parse_canonical_stray_bracket :
    (∃ p, parse .standard ["<...><b>x <<c>".toList] = .ok p ∧
      p.segments = [.wildcard (some ['b']), .literal "x <".toList, .wildcard (some ['c'])] ∧
      p.render [] = "<b>x <<c>".toList ∧ parse .standard [p.render []] = .ok p) ∧
    ¬ TagsTouch (normalize false "x <<c> ".toList) ∧
    ∃ p, parse .standard ["x <<c> ".toList] = .ok p ∧ p.render [] = "x <<c>".toList := by
  have hs : Token.scan "<...><b>x <<c>".toList =
      [.tag .any, .tag (.named ['b']), .char 'x', .char ' ', .char '<', .tag (.named ['c'])] := by
    decide +kernel
  have hs' : Token.scan "x <<c>".toList =
      [.char 'x', .char ' ', .char '<', .tag (.named ['c'])] := by decide +kernel
  have hp := parse_standard ["<...><b>x <<c>".toList] hs rfl
  have hp' := parse_standard ["x <<c> ".toList] hs' rfl
  have hapart : ¬ TagsTouch (normalize false "x <<c> ".toList) := by
    rw [tagsTouch_iff]
    rintro ⟨s, a, b, s', he⟩
    have htags := congrArg (List.filterMap Token.tag?) (hs'.symm.trans he)
    have hcount := congrArg List.length htags
    simp only [List.filterMap_append, List.filterMap_cons, List.filterMap_nil, Token.tag?,
      List.length_append, List.length_cons, List.length_nil] at hcount
    omega
  refine ⟨⟨_, hp, rfl, rfl, (parse_canonical hp).2.1⟩, hapart, _, hp', ?_⟩
  exact (parse_canonical hp').2.2.2 fun _ => hapart

/-- No name is the three dots. -/
lemma dots_not_mem_names {comparison : Comparison} {expected : List Text} {p : Pattern}
    (hp : parse comparison expected = .ok p) : Tag.dots ∉ names p.segments := by
  intro hm
  have hstart : Tag.startsName '.' = true := (proper_of_mem_names hp hm).1
  exact absurd hstart (by decide)

section
variable {comparison : Comparison} {expected : List Text} {p : Pattern}
  (hp : parse comparison expected = .ok p) (ht : comparison.tags = true)
include hp ht

lemma scan_render_nil : Token.scan (p.render []) = spelled p.segments := by
  obtain ⟨-, rfl⟩ := ofNormal_eq_ok.1 hp
  rw [← Comparison.tokensOf_of_tags ht, render_nil]
  exact comparison.tokensOf_spelled _

lemma pasteKnown_render_nil {captures : Captures} (hdots : captures.get? Tag.dots = none) :
    pasteKnown captures (p.render []) = p.render captures := by
  rw [pasteKnown, scan_render_nil hp ht, spelled, List.flatMap_assoc, render]
  exact List.flatMap_congr fun s _ => flatMap_pasted_tokens hdots s

end

/-- A pattern is rendered with values as they are pasted over its tags when it is rendered without
them. So where a pattern whose wildcards all have names accepts output, the captures can be pasted
into the rendered pattern, and that gives the output in normal form. -/
theorem render_eq_pasteKnown {comparison : Comparison} {expected : List Text} {p : Pattern}
    (hp : parse comparison expected = .ok p) (ht : comparison.tags = true) :
    (∀ captures : Captures, captures.get? Tag.dots = none →
      p.render captures = pasteKnown captures (p.render [])) ∧
    ∀ output, (p.matchOutput output).passed = true → .wildcard none ∉ p.segments →
      pasteKnown (p.matchOutput output).captures (p.render []) =
          normalize comparison.normWs output ∧
        paste (p.matchOutput output).captures (p.render []) =
          .ok (normalize comparison.normWs output) := by
  refine ⟨fun captures hdots => (pasteKnown_render_nil hp ht hdots).symm, ?_⟩
  intro output hpassed hnone
  obtain ⟨rfl, ha, hd⟩ := parse_parsed hp
  obtain ⟨ws, h⟩ := Scan.leftmost_of_run (s := Scan.start) ha (matchOutput_passed.1 hpassed)
  have hcaptures : (p.matchOutput output).captures = bindings p.segments ws :=
    congrArg Scan.captures (Scan.run_of_leftmost (s := Scan.start) ha h)
  have hnames : (bindings p.segments ws).map Prod.fst = names p.segments := bindings_names h.spells
  have hdots : (bindings p.segments ws).get? Tag.dots = none := by
    refine Option.eq_none_iff_forall_ne_some.2 fun t hget => dots_not_mem_names hp ?_
    rw [← hnames]
    exact List.mem_map_of_mem (Captures.mem_of_get? hget)
  have hmissing : missing? (bindings p.segments ws) (p.render []) = none := by
    rw [missing?, scan_render_nil hp ht, names_spelled, List.find?_eq_none]
    intro name hname
    rw [← hnames] at hname
    obtain ⟨⟨n, t⟩, hmem, rfl⟩ := List.mem_map.1 hname
    rw [← hnames] at hd
    simp [Captures.get?_of_mem hd hmem]
  have hpasted : pasteKnown (bindings p.segments ws) (p.render []) =
      normalize p.comparison.normWs output := by
    rw [pasteKnown_render_nil hp ht hdots]
    exact render_bindings h.spells hnone hd
  rw [hcaptures, paste, hmissing]
  exact ⟨hpasted, congrArg _ hpasted⟩

/-- The captured `<y>` is pasted and not searched for tags. -/
theorem render_eq_pasteKnown_tag_captured :
    ∃ p, parse .standard ["<x>-<y>".toList] = .ok p ∧
      (p.matchOutput "<y>-a \n".toList).passed = true ∧ .wildcard none ∉ p.segments ∧
      (p.matchOutput "<y>-a \n".toList).captures =
        [("x".toList, "<y>".toList), ("y".toList, "a".toList)] ∧
      paste (p.matchOutput "<y>-a \n".toList).captures (p.render []) = .ok "<y>-a".toList ∧
      Captures.get? [("y".toList, "b".toList)] Tag.dots = none ∧
      pasteKnown [("y".toList, "b".toList)] (p.render []) = "<x>-b".toList := by
  have hs : Token.scan "<x>-<y>".toList =
      [.tag (.named ['x']), .char '-', .tag (.named ['y'])] := by decide +kernel
  have hp : parse .standard ["<x>-<y>".toList] =
      .ok ⟨[.wildcard (some ['x']), .literal ['-'], .wildcard (some ['y'])], .standard⟩ :=
    parse_standard ["<x>-<y>".toList] hs rfl
  obtain ⟨hrender, hpaste⟩ := render_eq_pasteKnown hp rfl
  have hdots : Captures.get? [("y".toList, "b".toList)] Tag.dots = none := by decide
  refine ⟨_, hp, by decide, by decide, by decide, ?_, hdots, ?_⟩
  · exact (hpaste "<y>-a \n".toList (by decide) (by decide)).2
  · exact (hrender _ hdots).symm

end Pattern

end Exemplar.Expected
