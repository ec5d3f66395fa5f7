import Exemplar.Text.Basic

/-!
# Fixed texts inside a text

Cutting a known beginning or end off a text, finding the first occurrence of a
text, and replacing all occurrences from left to right without overlap.
-/
namespace Exemplar.Text

/-- What follows `p` in a text that begins with it. -/
def stripPrefix? : Text → Text → Option Text
  | [], t => some t
  | _ :: _, [] => none
  | a :: p, c :: t => if a = c then stripPrefix? p t else none

theorem stripPrefix?_eq_some {p t r : Text} : stripPrefix? p t = some r ↔ t = p ++ r := by
  induction p generalizing t with
  | nil => simp [stripPrefix?, eq_comm]
  | cons a p ih =>
    cases t with
    | nil => simp [stripPrefix?]
    | cons c t => by_cases h : a = c <;> simp [stripPrefix?, h, ih, eq_comm]

@[simp] theorem stripPrefix?_append (p r : Text) : stripPrefix? p (p ++ r) = some r :=
  stripPrefix?_eq_some.2 rfl

def startsWith (t p : Text) : Bool := (stripPrefix? p t).isSome

theorem startsWith_iff {t p : Text} : startsWith t p = true ↔ ∃ r, t = p ++ r := by
  simp [startsWith, Option.isSome_iff_exists, stripPrefix?_eq_some]

/-- What precedes `s` in a text that ends with it. -/
def stripSuffix? (s t : Text) : Option Text :=
  (stripPrefix? s.reverse t.reverse).map List.reverse

theorem stripSuffix?_eq_some {s t r : Text} : stripSuffix? s t = some r ↔ t = r ++ s := by
  simp only [stripSuffix?, Option.map_eq_some_iff, stripPrefix?_eq_some]
  constructor
  · rintro ⟨u, hu, rfl⟩
    have := congrArg List.reverse hu
    simpa using this
  · rintro rfl
    exact ⟨r.reverse, by simp, by simp⟩

def endsWith (t s : Text) : Bool := (stripSuffix? s t).isSome

/-- The text before the first occurrence of `needle`, and the text after it. -/
def breakOn (needle : Text) : Text → Option (Text × Text)
  | [] => (stripPrefix? needle []).map fun after => ([], after)
  | c :: t =>
    match stripPrefix? needle (c :: t) with
    | some after => some ([], after)
    | none => (breakOn needle t).map fun found => (c :: found.1, found.2)

/-- Nothing is lost: the parts found spell the text. -/
theorem breakOn_spells {needle t before after : Text}
    (h : breakOn needle t = some (before, after)) :
    t = before ++ needle ++ after := by
  induction t generalizing before after with
  | nil =>
    simp only [breakOn, Option.map_eq_some_iff, Prod.mk.injEq] at h
    obtain ⟨u, hu, rfl, rfl⟩ := h
    simpa using stripPrefix?_eq_some.1 hu
  | cons c t ih =>
    simp only [breakOn] at h
    split at h
    · rename_i u hu
      cases h
      simpa using stripPrefix?_eq_some.1 hu
    · simp only [Option.map_eq_some_iff, Prod.mk.injEq, Prod.exists] at h
      obtain ⟨b, a, hb, rfl, rfl⟩ := h
      simp [ih hb]

theorem breakOn_length {needle t before after : Text}
    (h : breakOn needle t = some (before, after)) :
    before.length + needle.length + after.length = t.length := by
  rw [breakOn_spells h]
  simp [Nat.add_assoc]

def contains (t needle : Text) : Bool := (breakOn needle t).isSome

/-- Every occurrence of `needle`, from left to right and without overlap, gives way to
`new`. Nothing is replaced for an empty needle. -/
def replaceAll (needle new t : Text) : Text :=
  match _h : breakOn needle t with
  | none => t
  | some (before, after) =>
    if _hn : needle = [] then t else before ++ new ++ replaceAll needle new after
termination_by t.length
decreasing_by
  have := breakOn_length _h
  have := List.length_pos_iff.2 _hn
  omega

end Exemplar.Text
