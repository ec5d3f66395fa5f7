import Exemplar.Expected.Tag
import Exemplar.Text.Blank
import Mathlib.Data.List.TakeWhile

/-!
# Tags in a text

Tokens spell the text that they are read from. A tag is recognised where it is written and nowhere
else, and what it is written with has no second opening bracket and no blank. So these end every
attempt to read a tag, and a text can be cut before any of them without a change to its tokens.
-/
namespace Exemplar.Expected
open Text

namespace Tag

/-- What is read behind an opening bracket is the tag as it is written, and the text behind. -/
lemma read?_spells {t rest : Text} {tag : Tag} (h : read? t = some (tag, rest)) :
    '<' :: t = tag.text ++ rest := by
  unfold read? at h
  split at h
  · cases h
    rfl
  · rename_i c t _
    split at h
    · split at h
      · rename_i r hr
        cases h
        have hparts : t.takeWhile continuesName ++ t.dropWhile continuesName = t :=
          List.takeWhile_append_dropWhile
        rw [hr] at hparts
        simp only [text, label, List.cons_append, List.append_assoc, List.nil_append,
          hparts]
      · cases h
    · cases h
  · cases h

/-- A tag that can be recognised: its name is a letter or an underscore, and behind it letters,
digits, underscores and hyphens. -/
def Proper : Tag → Prop
  | any => True
  | named [] => False
  | named (c :: name) => startsName c = true ∧ ∀ d ∈ name, continuesName d = true

/-- A tag is read where it is written. -/
theorem read?_eq_some {t rest : Text} {tag : Tag} :
    read? t = some (tag, rest) ↔ tag.Proper ∧ t = tag.label ++ '>' :: rest := by
  constructor
  · intro h
    have hspells : '<' :: t = '<' :: (tag.label ++ '>' :: rest) := by
      rw [read?_spells h]
      simp [text]
    refine ⟨?_, (List.cons.inj hspells).2⟩
    unfold read? at h
    split at h
    · cases h
      trivial
    · rename_i c t _
      split at h
      · rename_i hc
        split at h
        · cases h
          exact ⟨hc, fun d hd => List.mem_takeWhile_imp hd⟩
        · cases h
      · cases h
    · cases h
  · rintro ⟨hp, rfl⟩
    rcases tag with _ | _ | ⟨c, name⟩
    · rfl
    · exact hp.elim
    · obtain ⟨hc, hname⟩ := hp
      have hdot : c ≠ '.' := by
        rintro rfl
        exact absurd hc (by decide)
      have hdrop : (name ++ '>' :: rest).dropWhile continuesName = '>' :: rest := by
        rw [List.dropWhile_append_of_pos hname]
        rfl
      have htake : (name ++ '>' :: rest).takeWhile continuesName = name := by
        rw [List.takeWhile_append_of_pos hname]
        exact List.append_nil name
      show read? (c :: (name ++ '>' :: rest)) = _
      unfold read?
      split
      · rename_i he
        exact absurd (List.cons.inj he).1 hdot
      · rename_i c' t' _ he
        obtain ⟨rfl, rfl⟩ := List.cons.inj he
        rw [if_pos hc, hdrop, htake]
        rfl
      · rename_i he
        cases he

/-- Where letters and digits stand among the characters. -/
lemma toNat_of_isAlphanum {c : Char} (h : c.isAlphanum = true) :
    (65 ≤ c.toNat ∧ c.toNat ≤ 90) ∨ (97 ≤ c.toNat ∧ c.toNat ≤ 122) ∨
      (48 ≤ c.toNat ∧ c.toNat ≤ 57) := by
  have hbounds : ∀ {m n : UInt32}, m ≤ c.val ∧ c.val ≤ n → m.toNat ≤ c.toNat ∧ c.toNat ≤ n.toNat :=
    fun h => h.imp UInt32.le_iff_toNat_le.1 UInt32.le_iff_toNat_le.1
  rcases Bool.or_eq_true_iff.1 h with hletter | hdigit
  · rcases Bool.or_eq_true_iff.1 hletter with hupper | hlower
    · exact .inl (hbounds (of_decide_eq_true hupper))
    · obtain ⟨hlow, hhigh⟩ := Bool.and_eq_true_iff.1 hlower
      exact .inr (.inl (hbounds ⟨of_decide_eq_true hlow, of_decide_eq_true hhigh⟩))
  · obtain ⟨hlow, hhigh⟩ := Bool.and_eq_true_iff.1 hdigit
    exact .inr (.inr (hbounds ⟨of_decide_eq_true hlow, of_decide_eq_true hhigh⟩))

lemma isBlank_of_continuesName {c : Char} (h : continuesName c = true) : isBlank c = false := by
  simp only [continuesName, Bool.or_eq_true, beq_iff_eq] at h
  rcases h with (h | rfl) | rfl
  · have hc := toNat_of_isAlphanum h
    simp only [isBlank, Bool.or_eq_false_iff, Bool.and_eq_false_iff, decide_eq_false_iff_not,
      beq_eq_false_iff_ne]
    omega
  · decide
  · decide

namespace Proper

variable {tag : Tag} (h : tag.Proper)
include h

lemma mem_label {c : Char} (hc : c ∈ tag.label) : c = '.' ∨ continuesName c = true := by
  rcases tag with _ | _ | ⟨d, name⟩
  · left
    simpa [label, dots] using hc
  · exact h.elim
  · right
    rcases List.mem_cons.1 hc with rfl | hc
    · have hstart := h.1
      simp only [startsName, Bool.or_eq_true] at hstart
      rcases hstart with ha | hu
      · simp [continuesName, Char.isAlphanum, ha]
      · simp [continuesName, hu]
    · exact h.2 c hc

/-- No bracket stands between the brackets of a tag. -/
lemma not_mem_label : '<' ∉ tag.label ∧ '>' ∉ tag.label := by
  constructor
  · exact fun hm => absurd (h.mem_label hm) (by decide)
  · exact fun hm => absurd (h.mem_label hm) (by decide)

lemma unblank : ∀ c ∈ tag.text, isBlank c = false := by
  intro c hc
  simp only [text, List.cons_append, List.mem_cons, List.mem_append, List.not_mem_nil,
    or_false] at hc
  rcases hc with rfl | hc | rfl
  · decide
  · rcases h.mem_label hc with rfl | hc
    · decide
    · exact isBlank_of_continuesName hc
  · decide

lemma newline_not_mem : '\n' ∉ tag.text := fun hn => absurd (h.unblank _ hn) (by decide)

end Proper

/-- No tag has the character behind its opening bracket, so an attempt to read one ends there. -/
def Breaks (c : Char) : Prop := c ≠ '>' ∧ ∀ tag : Tag, tag.Proper → c ∉ tag.label

lemma breaks_bracket : Breaks '<' := ⟨by decide, fun _ h => h.not_mem_label.1⟩

lemma breaks_of_isBlank {c : Char} (hc : isBlank c = true) : Breaks c := by
  have hlabel : ∀ {tag : Tag} {d : Char}, d ∈ tag.label → d ∈ tag.text := fun hd => by
    simp [text, hd]
  constructor
  · rintro rfl
    exact absurd hc (by decide)
  · intro tag h hmem
    rw [h.unblank c (hlabel hmem)] at hc
    cases hc

/-- What breaks tags is no part of a tag that begins before it. -/
theorem read?_append {c : Char} (hc : Breaks c) {u v : Text} :
    read? (u ++ c :: v) = none ↔ read? u = none := by
  constructor
  · intro h
    refine Option.eq_none_iff_forall_ne_some.2 fun ⟨tag, rest⟩ hr => ?_
    obtain ⟨hp, rfl⟩ := read?_eq_some.1 hr
    have hread : read? (tag.label ++ '>' :: rest ++ c :: v) = some (tag, rest ++ c :: v) :=
      read?_eq_some.2 ⟨hp, by simp⟩
    rw [h] at hread
    cases hread
  · intro h
    refine Option.eq_none_iff_forall_ne_some.2 fun ⟨tag, rest⟩ hr => ?_
    obtain ⟨hp, he⟩ := read?_eq_some.1 hr
    rcases List.append_eq_append_iff.1 he with ⟨w, hw, hv⟩ | ⟨w, rfl, hv⟩
    · cases w with
      | nil => exact hc.1 (List.cons.inj hv).1
      | cons d w =>
        obtain ⟨rfl, -⟩ := List.cons.inj hv
        exact hc.2 tag hp (by simp [hw])
    · cases w with
      | nil => exact hc.1 (List.cons.inj hv).1.symm
      | cons d w =>
        obtain ⟨rfl, -⟩ := List.cons.inj hv
        rw [read?_eq_some.2 ⟨hp, rfl⟩] at h
        cases h

end Tag

namespace Token

lemma scan_tag {t rest : Text} {tag : Tag} (h : Tag.read? t = some (tag, rest)) :
    scan ('<' :: t) = .tag tag :: scan rest := by
  rw [scan, if_pos rfl]
  split <;> simp_all

lemma scan_bracket {t : Text} (h : Tag.read? t = none) :
    scan ('<' :: t) = .char '<' :: scan t := by
  rw [scan, if_pos rfl]
  split <;> simp_all

lemma scan_char {c : Char} (hc : c ≠ '<') (t : Text) : scan (c :: t) = .char c :: scan t := by
  rw [scan, if_neg hc]

/-- No character is lost in reading tokens. -/
theorem flatMap_text_scan (t : Text) : (scan t).flatMap text = t := by
  induction t using scan.induct with
  | case1 =>
    rw [scan]
    rfl
  | case2 t found rest hr ih =>
    rw [scan_tag hr, List.flatMap_cons, ih, Tag.read?_spells hr]
    rfl
  | case3 t hr ih =>
    rw [scan_bracket hr, List.flatMap_cons, ih]
    rfl
  | case4 c t hc ih =>
    rw [scan_char hc, List.flatMap_cons, ih]
    rfl

@[simp] theorem names_map_char (t : Text) : names (t.map .char) = [] := by
  unfold names
  rw [List.filterMap_map]
  exact List.filterMap_eq_nil_iff.2 fun _ _ => rfl

def tag? : Token → Option Tag
  | char _ => none
  | tag t => some t

/-- Tokens without tags are the characters that they spell. -/
lemma eq_map_char {tokens : List Token} (h : tokens.filterMap tag? = []) :
    tokens = (tokens.flatMap text).map char := by
  induction tokens with
  | nil => rfl
  | cons token tokens ih =>
    cases token with
    | tag t => simp [tag?] at h
    | char c =>
      have hrest := ih (by simpa [tag?] using h)
      rw [List.flatMap_cons, List.map_append, ← hrest]
      rfl

lemma scan_tag_text {tag : Tag} (h : tag.Proper) (t : Text) :
    scan (tag.text ++ t) = .tag tag :: scan t := by
  have hr : Tag.read? (tag.label ++ '>' :: t) = some (tag, t) := Tag.read?_eq_some.2 ⟨h, rfl⟩
  rw [← scan_tag hr]
  simp [Tag.text]

/-- The tokens before a character that breaks tags do not depend on what follows. -/
theorem scan_append {c : Char} (hc : Tag.Breaks c) (u v : Text) :
    scan (u ++ c :: v) = scan u ++ scan (c :: v) := by
  induction u using scan.induct with
  | case1 => rw [scan.eq_1]; rfl
  | case2 u tag rest hr ih =>
    obtain ⟨hp, rfl⟩ := Tag.read?_eq_some.1 hr
    have hr' : Tag.read? (tag.label ++ '>' :: rest ++ c :: v) = some (tag, rest ++ c :: v) :=
      Tag.read?_eq_some.2 ⟨hp, by simp⟩
    rw [List.cons_append, scan_tag hr', scan_tag hr, ih, List.cons_append]
  | case3 u hr ih =>
    rw [List.cons_append, scan_bracket ((Tag.read?_append hc).2 hr), scan_bracket hr, ih,
      List.cons_append]
  | case4 d u hd ih =>
    rw [List.cons_append, scan_char hd, scan_char hd, ih, List.cons_append]

/-- What tokens a text can have: a tag is proper, and what follows an opening bracket that stands
for itself is not read as a tag. -/
def Legible : List Token → Prop
  | [] => True
  | .char c :: tokens => (c = '<' → Tag.read? (tokens.flatMap text) = none) ∧ Legible tokens
  | .tag t :: tokens => t.Proper ∧ Legible tokens

theorem legible_scan (t : Text) : Legible (scan t) := by
  induction t using scan.induct with
  | case1 =>
    rw [scan]
    trivial
  | case2 t found rest hr ih =>
    rw [scan_tag hr]
    exact ⟨(Tag.read?_eq_some.1 hr).1, ih⟩
  | case3 t hr ih =>
    rw [scan_bracket hr]
    refine ⟨fun _ => ?_, ih⟩
    rwa [flatMap_text_scan]
  | case4 c t hc ih =>
    rw [scan_char hc]
    exact ⟨fun he => absurd he hc, ih⟩

/-- Legible tokens are read back. -/
theorem scan_flatMap_text {tokens : List Token} (h : Legible tokens) :
    scan (tokens.flatMap text) = tokens := by
  induction tokens with
  | nil => rw [List.flatMap_nil, scan]
  | cons token tokens ih =>
    rw [List.flatMap_cons]
    cases token with
    | char c =>
      show scan (c :: tokens.flatMap text) = _
      by_cases hc : c = '<'
      · subst hc
        rw [scan_bracket (h.1 rfl), ih h.2]
      · rw [scan_char hc, ih h.2]
    | tag t =>
      show scan (t.text ++ tokens.flatMap text) = _
      rw [scan_tag_text h.1, ih h.2]

lemma Legible.proper {tokens : List Token} (h : Legible tokens) {tag : Tag}
    (hm : .tag tag ∈ tokens) : tag.Proper := by
  induction tokens with
  | nil => simp at hm
  | cons token tokens ih =>
    cases token with
    | char c => exact ih h.2 (by simpa using hm)
    | tag t =>
      rcases List.mem_cons.1 hm with he | hm
      · cases he
        exact h.1
      · exact ih h.2 hm

end Token

/-- Two tags stand side by side. -/
def TagsTouch (t : Text) : Prop :=
  ∃ u a b v, a.Proper ∧ b.Proper ∧ t = u ++ (Tag.text a ++ (Tag.text b ++ v))

/-- Tags that stand side by side are both recognised. -/
theorem tagsTouch_iff {t : Text} :
    TagsTouch t ↔ ∃ s a b s', Token.scan t = s ++ .tag a :: .tag b :: s' := by
  constructor
  · rintro ⟨u, a, b, v, ha, hb, rfl⟩
    refine ⟨Token.scan u, a, b, Token.scan v, ?_⟩
    rw [← Token.scan_tag_text hb, ← Token.scan_tag_text ha]
    exact Token.scan_append Tag.breaks_bracket u _
  · rintro ⟨s, a, b, s', hs⟩
    have hproper : ∀ tag, .tag tag ∈ s ++ .tag a :: .tag b :: s' → tag.Proper := fun tag hm =>
      (hs ▸ Token.legible_scan t).proper hm
    refine ⟨s.flatMap Token.text, a, b, s'.flatMap Token.text, hproper a (by simp),
      hproper b (by simp), ?_⟩
    rw [← Token.flatMap_text_scan t, hs, List.flatMap_append, List.flatMap_cons, List.flatMap_cons]
    rfl

end Exemplar.Expected
