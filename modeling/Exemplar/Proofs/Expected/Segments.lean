import Exemplar.Expected.Pattern
import Exemplar.Proofs.Expected.Tags
import Mathlib.Data.List.Basic

/-!
# Segments of a parsed pattern

Parsing merges neighbouring characters into one literal and neighbouring tags into one
wildcard, so the segments alternate. Merging never invents a name: the names of the
wildcards are some of the names that were written, in their order, and since no name may
be written twice they are distinct.
-/
namespace Exemplar.Expected

namespace Segment

def isLiteral : Segment → Bool
  | literal _ => true
  | wildcard _ => false

/-- The name of a wildcard that captures. -/
def name? : Segment → Option Text
  | literal _ => none
  | wildcard name => name

/-- The names of the wildcards that capture, in order. -/
def names (segments : List Segment) : List Text := segments.filterMap name?

@[simp] theorem names_nil : names [] = [] := rfl

@[simp] theorem names_literal (l : Text) (segments : List Segment) :
    names (literal l :: segments) = names segments := rfl

@[simp] theorem names_wildcard (name : Option Text) (segments : List Segment) :
    names (wildcard name :: segments) = name.toList ++ names segments := by
  cases name <;> rfl

/-- The first of the segments, if there is one, is no literal. -/
def NoLiteralFirst (segments : List Segment) : Prop := ∀ s ∈ segments.head?, s.isLiteral = false

@[simp] theorem noLiteralFirst_nil : NoLiteralFirst [] := by simp [NoLiteralFirst]

@[simp] theorem noLiteralFirst_literal (l : Text) (segments : List Segment) :
    ¬ NoLiteralFirst (literal l :: segments) := by simp [NoLiteralFirst, isLiteral]

@[simp] theorem noLiteralFirst_wildcard (name : Option Text) (segments : List Segment) :
    NoLiteralFirst (wildcard name :: segments) := by simp [NoLiteralFirst, isLiteral]

/-- No literal has a literal behind it, and a wildcard has a literal behind it or is last. -/
inductive Alternating : List Segment → Prop
  | nil : Alternating []
  | literal {l : Text} {segments : List Segment} :
      NoLiteralFirst segments → Alternating segments → Alternating (.literal l :: segments)
  | last {name : Option Text} : Alternating [.wildcard name]
  | gap {name : Option Text} {l : Text} {segments : List Segment} :
      NoLiteralFirst segments → Alternating segments →
      Alternating (.wildcard name :: .literal l :: segments)

/-- A character in front joins a literal or becomes one, and a tag in front joins a
wildcard or becomes one. -/
lemma Alternating.push {segments : List Segment} (h : Alternating segments) (token : Token) :
    Alternating (push token segments) := by
  cases token with
  | char c =>
    cases h with
    | nil => exact .literal noLiteralFirst_nil .nil
    | literal hn h => exact .literal hn h
    | last => exact .literal (noLiteralFirst_wildcard _ _) .last
    | gap hn h => exact .literal (noLiteralFirst_wildcard _ _) (.gap hn h)
  | tag t =>
    cases h with
    | nil => exact .last
    | literal hn h => exact .gap hn h
    | last => exact .last
    | gap hn h => exact .gap hn h

theorem ofTokens_alternating (tokens : List Token) : Alternating (ofTokens tokens) := by
  induction tokens with
  | nil => exact .nil
  | cons token tokens ih => exact ih.push token

lemma names_push_char (c : Char) (segments : List Segment) :
    names (push (.char c) segments) = names segments := by
  rcases segments with _ | ⟨_ | _, _⟩ <;> simp [push]

/-- A tag adds its name, unless it joins a wildcard: then one of the two names stays. -/
lemma names_push_tag (t : Tag) (segments : List Segment) :
    (names (push (.tag t) segments)).Sublist (t.name?.toList ++ names segments) := by
  rcases segments with _ | ⟨_ | name, rest⟩
  · simp [push]
  · simp [push]
  · cases h : t.name? <;> simp [push, h]

lemma names_ofTokens (tokens : List Token) :
    (names (ofTokens tokens)).Sublist (Token.names tokens) := by
  induction tokens with
  | nil => exact .refl _
  | cons token tokens ih =>
    change (names (push token (ofTokens tokens))).Sublist _
    cases token with
    | char c =>
      rw [names_push_char]
      simpa [Token.names] using ih
    | tag t =>
      have hs := (names_push_tag t (ofTokens tokens)).trans (ih.append_left t.name?.toList)
      cases h : t.name? <;> simpa [Token.names, h] using hs

end Segment

/-- The check for repetition lets exactly the distinct names pass. -/
lemma repeated?_eq_none {seen names : List Text} :
    repeated? seen names = none ↔ names.Nodup ∧ ∀ name ∈ names, name ∉ seen := by
  induction names generalizing seen with
  | nil => simp [repeated?]
  | cons name rest ih =>
    by_cases hm : name ∈ seen
    · simp [repeated?, hm]
    · simp only [repeated?, hm, if_false, ih, List.mem_cons, not_or, List.nodup_cons,
        forall_eq_or_imp, not_false_eq_true, true_and]
      constructor
      · rintro ⟨hn, hs⟩
        exact ⟨⟨fun hr => (hs name hr).1 rfl, hn⟩, fun a ha => (hs a ha).2⟩
      · rintro ⟨⟨hr, hn⟩, hs⟩
        exact ⟨hn, fun a ha => ⟨fun he => hr (he ▸ ha), hs a ha⟩⟩

/-- What a text in normal form is read as. -/
def Comparison.tokensOf (comparison : Comparison) (t : Text) : List Token :=
  if comparison.tags then Token.scan t else t.map .char

lemma Comparison.tokensOf_of_tags {comparison : Comparison} (ht : comparison.tags = true)
    (t : Text) : comparison.tokensOf t = Token.scan t := if_pos ht

lemma Comparison.flatMap_text_tokensOf (comparison : Comparison) (t : Text) :
    (comparison.tokensOf t).flatMap Token.text = t := by
  unfold tokensOf
  split
  · exact Token.flatMap_text_scan t
  · rw [List.flatMap_map]
    exact List.flatMap_singleton' t

lemma Comparison.proper_of_mem_tokensOf {comparison : Comparison} {t : Text} {tag : Tag}
    (h : .tag tag ∈ comparison.tokensOf t) : tag.Proper := by
  unfold tokensOf at h
  split at h
  · exact (Token.legible_scan t).proper h
  · simp at h

/-- The segments of a text that stands for itself. -/
def Segment.ofLiteral (t : Text) : List Segment := if t.isEmpty then [] else [.literal t]

lemma Segment.ofTokens_map_char (t : Text) : ofTokens (t.map .char) = ofLiteral t := by
  induction t with
  | nil => rfl
  | cons c t ih =>
    show push (.char c) (ofTokens (t.map .char)) = _
    rw [ih]
    cases t <;> rfl

namespace Pattern

/-- A text makes a pattern when no name is read in it twice. -/
lemma ofNormal_eq_ok {comparison : Comparison} {t : Text} {p : Pattern} :
    ofNormal comparison t = .ok p ↔ (Token.names (comparison.tokensOf t)).Nodup ∧
      p = ⟨Segment.ofTokens (comparison.tokensOf t), comparison⟩ := by
  unfold ofNormal Comparison.tokensOf
  by_cases ht : comparison.tags = true
  · simp only [if_pos ht]
    cases hr : repeated? [] (Token.names (Token.scan t)) with
    | some name =>
      have hd : ¬ (Token.names (Token.scan t)).Nodup := by
        intro hd
        rw [repeated?_eq_none.2 ⟨hd, by simp⟩] at hr
        cases hr
      simp [hd]
    | none =>
      have hd := (repeated?_eq_none.1 hr).1
      exact ⟨fun h => ⟨hd, (Except.ok.inj h).symm⟩, fun h => congrArg _ h.2.symm⟩
  · simp only [if_neg ht, Token.names_map_char, Segment.ofTokens_map_char, Segment.ofLiteral]
    exact ⟨fun h => ⟨.nil, (Except.ok.inj h).symm⟩, fun h => congrArg _ h.2.symm⟩

/-- A text makes no pattern only when a name is read in it twice. -/
lemma not_nodup_of_ofNormal {comparison : Comparison} {t : Text} {err : RepeatedTag}
    (h : ofNormal comparison t = .error err) :
    ¬ (Token.names (comparison.tokensOf t)).Nodup := by
  intro hd
  cases h.symm.trans (ofNormal_eq_ok.2 ⟨hd, rfl⟩)

/-- What parsing promises about the pattern that it returns. -/
structure Parsed (comparison : Comparison) (p : Pattern) : Prop where
  comparison_eq : p.comparison = comparison
  alternating : Segment.Alternating p.segments
  distinct : (Segment.names p.segments).Nodup

theorem parse_parsed {comparison : Comparison} {expected : List Text} {p : Pattern}
    (h : parse comparison expected = .ok p) : Parsed comparison p := by
  obtain ⟨hd, rfl⟩ := ofNormal_eq_ok.1 h
  exact ⟨rfl, Segment.ofTokens_alternating _, hd.sublist (Segment.names_ofTokens _)⟩

/-- The names of a pattern are written in tags. -/
lemma proper_of_mem_names {comparison : Comparison} {expected : List Text} {p : Pattern}
    (h : parse comparison expected = .ok p) {name : Text}
    (hname : name ∈ Segment.names p.segments) : (Tag.named name).Proper := by
  obtain ⟨-, rfl⟩ := ofNormal_eq_ok.1 h
  obtain ⟨token, htoken, hn⟩ := List.mem_filterMap.1 ((Segment.names_ofTokens _).subset hname)
  rcases token with c | _ | n
  · cases hn
  · cases hn
  · obtain rfl : n = name := Option.some.inj hn
    exact Comparison.proper_of_mem_tokensOf htoken

/-- The standard pattern of a text, from its tokens. -/
lemma parse_standard (expected : List Text) {tokens : List Token}
    (hs : Token.scan (normalize false (Text.joinLines expected)) = tokens)
    (hr : repeated? [] (Token.names tokens) = none) :
    parse .standard expected = .ok ⟨Segment.ofTokens tokens, .standard⟩ := by
  subst hs
  simp [parse, ofNormal, Comparison.standard, hr]

end Pattern

end Exemplar.Expected
