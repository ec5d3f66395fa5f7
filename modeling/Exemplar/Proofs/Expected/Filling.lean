import Exemplar.Expected.Match
import Exemplar.Proofs.Expected.Segments
import Exemplar.Proofs.Text.Occurrence

/-!
# Filling the wildcards of a pattern

Texts in the places of the wildcards, one for each, spell a text together with the literals.
An assignment spells a given text with texts that wildcards may take. Among the assignments
at most one is leftmost: there each wildcard before a literal ends where that literal first
occurs in what is left, and a wildcard at the end takes everything that is left.
-/
namespace Exemplar.Expected
open Text

/-- A wildcard may take the text: it has no line break unless wildcards may span lines. -/
def Allowed (spanLines : Bool) (t : Text) : Prop := spanLines = false → '\n' ∉ t

lemma crosses_eq_false {spanLines : Bool} {t : Text} :
    Scan.crosses spanLines t = false ↔ Allowed spanLines t := by
  cases spanLines <;> simp [Scan.crosses, Allowed]

lemma not_allowed {spanLines : Bool} {t : Text} :
    ¬ Allowed spanLines t ↔ spanLines = false ∧ '\n' ∈ t := by simp [Allowed]

lemma allowed_nil (spanLines : Bool) : Allowed spanLines [] := by simp [Allowed]

lemma allowed_append {spanLines : Bool} {s t : Text} :
    Allowed spanLines (s ++ t) ↔ Allowed spanLines s ∧ Allowed spanLines t := by
  simp only [Allowed, List.mem_append, not_or]
  exact ⟨fun h => ⟨fun hs => (h hs).1, fun hs => (h hs).2⟩, fun h hs => ⟨h.1 hs, h.2 hs⟩⟩

/-- Moving a literal from behind a text to its front leaves the number of line breaks of
the text as it was, also when the literal has line breaks itself. -/
lemma Allowed.of_shift {spanLines : Bool} {l d d' : Text} (h : Allowed spanLines d)
    (he : d ++ l = l ++ d') : Allowed spanLines d' := by
  intro hs
  have hc := congrArg newlines he
  simp only [newlines_append] at hc
  have hd : newlines d = 0 := List.count_eq_zero.2 (h hs)
  exact List.count_eq_zero.1 (show newlines d' = 0 by omega)

namespace Segment

/-- What the literals spell with a text for each wildcard, in order. -/
def fill : List Segment → List Text → Option Text
  | [], [] => some []
  | literal l :: segments, ws => (fill segments ws).map (l ++ ·)
  | wildcard _ :: segments, w :: ws => (fill segments ws).map (w ++ ·)
  | _, _ => none

/-- The named wildcards with their texts. -/
def bindings : List Segment → List Text → Captures
  | literal _ :: segments, ws => bindings segments ws
  | wildcard (some name) :: segments, w :: ws => (name, w) :: bindings segments ws
  | wildcard none :: segments, _ :: ws => bindings segments ws
  | _, _ => []

/-- Texts for the wildcards that spell `t` and that the wildcards may take. -/
structure Assigns (spanLines : Bool) (segments : List Segment) (ws : List Text) (t : Text) :
    Prop where
  spells : fill segments ws = some t
  allowed : ∀ w ∈ ws, Allowed spanLines w

/-- A literal behind a wildcard with the text `w` does not occur earlier than behind `w` in
the text that the wildcard and everything behind it spell. -/
def StopsAtLiteral (w : Text) (ws : List Text) : List Segment → Prop
  | literal l :: segments =>
    ∀ rest, fill segments ws = some rest → FirstOccurrence l (w ++ l ++ rest) w rest
  | _ => True

/-- Every wildcard before a literal takes the shortest text before that literal. -/
def Shortest : List Segment → List Text → Prop
  | literal _ :: segments, ws => Shortest segments ws
  | wildcard _ :: segments, w :: ws => StopsAtLiteral w ws segments ∧ Shortest segments ws
  | _, _ => True

/-- An assignment in which every wildcard before a literal takes the shortest text. -/
structure Leftmost (spanLines : Bool) (segments : List Segment) (ws : List Text) (t : Text) :
    Prop extends Assigns spanLines segments ws t where
  shortest : Shortest segments ws

variable {spanLines : Bool} {segments : List Segment} {ws : List Text} {t : Text}

lemma assigns_nil : Assigns spanLines [] ws t ↔ ws = [] ∧ t = [] := by
  constructor
  · rintro ⟨hs, -⟩
    cases ws with
    | nil => exact ⟨rfl, by simpa [fill, eq_comm] using hs⟩
    | cons w ws => simp [fill] at hs
  · rintro ⟨rfl, rfl⟩
    exact ⟨rfl, by simp⟩

lemma assigns_literal {l : Text} :
    Assigns spanLines (literal l :: segments) ws t ↔
      ∃ rest, t = l ++ rest ∧ Assigns spanLines segments ws rest := by
  constructor
  · rintro ⟨hs, ha⟩
    simp only [fill, Option.map_eq_some_iff] at hs
    obtain ⟨rest, hr, rfl⟩ := hs
    exact ⟨rest, rfl, hr, ha⟩
  · rintro ⟨rest, rfl, hr, ha⟩
    exact ⟨by simp [fill, hr], ha⟩

lemma assigns_wildcard {name : Option Text} :
    Assigns spanLines (wildcard name :: segments) ws t ↔
      ∃ w ws' rest, ws = w :: ws' ∧ t = w ++ rest ∧ Allowed spanLines w ∧
        Assigns spanLines segments ws' rest := by
  constructor
  · rintro ⟨hs, ha⟩
    cases ws with
    | nil => simp [fill] at hs
    | cons w ws' =>
      simp only [fill, Option.map_eq_some_iff] at hs
      obtain ⟨rest, hr, rfl⟩ := hs
      exact ⟨w, ws', rest, rfl, rfl, ha w (by simp), hr, fun v hv => ha v (by simp [hv])⟩
  · rintro ⟨w, ws', rest, rfl, rfl, hw, hr, ha⟩
    refine ⟨by simp [fill, hr], ?_⟩
    intro v hv
    rcases List.mem_cons.1 hv with rfl | hv
    · exact hw
    · exact ha v hv

lemma leftmost_nil : Leftmost spanLines [] ws t ↔ ws = [] ∧ t = [] := by
  constructor
  · exact fun h => assigns_nil.1 h.toAssigns
  · rintro ⟨rfl, rfl⟩
    exact ⟨assigns_nil.2 ⟨rfl, rfl⟩, trivial⟩

lemma leftmost_literal {l : Text} :
    Leftmost spanLines (literal l :: segments) ws t ↔
      ∃ rest, t = l ++ rest ∧ Leftmost spanLines segments ws rest := by
  constructor
  · rintro ⟨ha, hs⟩
    obtain ⟨rest, rfl, hr⟩ := assigns_literal.1 ha
    exact ⟨rest, rfl, hr, hs⟩
  · rintro ⟨rest, rfl, hr, hs⟩
    exact ⟨assigns_literal.2 ⟨rest, rfl, hr⟩, hs⟩

/-- A wildcard at the end takes everything that is left. -/
lemma leftmost_last {name : Option Text} :
    Leftmost spanLines [wildcard name] ws t ↔ ws = [t] ∧ Allowed spanLines t := by
  constructor
  · rintro ⟨ha, -⟩
    obtain ⟨w, ws', rest, rfl, rfl, hw, hr⟩ := assigns_wildcard.1 ha
    obtain ⟨rfl, rfl⟩ := assigns_nil.1 hr
    simpa using hw
  · rintro ⟨rfl, ht⟩
    refine ⟨assigns_wildcard.2 ⟨t, [], [], rfl, by simp, ht, assigns_nil.2 ⟨rfl, rfl⟩⟩, ?_⟩
    exact ⟨trivial, trivial⟩

/-- A wildcard before a literal takes what precedes the first occurrence of the literal. -/
lemma leftmost_gap {name : Option Text} {l : Text} :
    Leftmost spanLines (wildcard name :: literal l :: segments) ws t ↔
      ∃ w ws' rest, ws = w :: ws' ∧ FirstOccurrence l t w rest ∧ Allowed spanLines w ∧
        Leftmost spanLines segments ws' rest := by
  constructor
  · rintro ⟨ha, hs⟩
    obtain ⟨w, ws', t', rfl, rfl, hw, ha'⟩ := assigns_wildcard.1 ha
    obtain ⟨rest, rfl, hr⟩ := assigns_literal.1 ha'
    refine ⟨w, ws', rest, rfl, ?_, hw, hr, hs.2⟩
    rw [← List.append_assoc]
    exact hs.1 rest hr.spells
  · rintro ⟨w, ws', rest, rfl, hf, hw, hr, hs⟩
    refine ⟨assigns_wildcard.2 ⟨w, ws', l ++ rest, rfl, ?_, hw, ?_⟩, ?_, hs⟩
    · rw [hf.spells, List.append_assoc]
    · exact assigns_literal.2 ⟨rest, rfl, hr⟩
    · intro rest' hr'
      obtain rfl : rest = rest' := Option.some.inj (hr.spells.symm.trans hr')
      rw [← hf.spells]
      exact hf

/-- The literals fix where each wildcard ends. -/
theorem Leftmost.unique {ws' : List Text} (ha : Alternating segments)
    (h : Leftmost spanLines segments ws t) (h' : Leftmost spanLines segments ws' t) : ws = ws' := by
  induction ha generalizing ws ws' t with
  | nil => rw [(leftmost_nil.1 h).1, (leftmost_nil.1 h').1]
  | literal _ _ ih =>
    obtain ⟨rest, rfl, hr⟩ := leftmost_literal.1 h
    obtain ⟨rest', he, hr'⟩ := leftmost_literal.1 h'
    obtain rfl := List.append_cancel_left he
    exact ih hr hr'
  | last => rw [(leftmost_last.1 h).1, (leftmost_last.1 h').1]
  | gap _ _ ih =>
    obtain ⟨w, vs, rest, rfl, hf, -, hr⟩ := leftmost_gap.1 h
    obtain ⟨w', vs', rest', rfl, hf', -, hr'⟩ := leftmost_gap.1 h'
    obtain ⟨rfl, rfl⟩ := hf.unique hf'
    rw [ih hr hr']

/-- As many texts as wildcards bind every name, in order. -/
lemma bindings_names (h : fill segments ws = some t) :
    (bindings segments ws).map Prod.fst = names segments := by
  induction segments generalizing ws t with
  | nil => cases ws <;> simp [bindings]
  | cons s segments ih =>
    cases s with
    | literal l =>
      simp only [fill, Option.map_eq_some_iff] at h
      obtain ⟨rest, hr, -⟩ := h
      exact ih hr
    | wildcard name =>
      cases ws with
      | nil => simp [fill] at h
      | cons w ws =>
        simp only [fill, Option.map_eq_some_iff] at h
        obtain ⟨rest, hr, -⟩ := h
        cases name <;> simp [bindings, ih hr]

end Segment

end Exemplar.Expected
