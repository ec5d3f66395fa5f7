import Exemplar.Text.Basic

/-!
# Lines of a text

A text is cut at its line breaks. The pieces keep every character and there is one
more of them than breaks; the lines are the pieces without the carriage return that
stands before a break, and without the empty piece after a final break.
-/
namespace Exemplar.Text

/-- Cut at every character that satisfies `p`; there is always a last piece. -/
def splitBy (p : Char → Bool) : Text → List Text
  | [] => [[]]
  | c :: t =>
    if p c then [] :: splitBy p t
    else match splitBy p t with
      | [] => [[c]]
      | w :: ws => (c :: w) :: ws

theorem splitBy_ne_nil (p : Char → Bool) (t : Text) : splitBy p t ≠ [] := by
  cases t with
  | nil => simp [splitBy]
  | cons c t =>
    simp only [splitBy]
    split
    · simp
    · split <;> simp

/-- Pieces between line breaks. -/
def pieces (t : Text) : List Text := splitBy (· == '\n') t

/-- Texts one below the other. -/
def joinLines : List Text → Text
  | [] => []
  | [l] => l
  | l :: ls => l ++ '\n' :: joinLines ls

theorem joinLines_cons {l : Text} {ls : List Text} (h : ls ≠ []) :
    joinLines (l :: ls) = l ++ '\n' :: joinLines ls := by
  cases ls with
  | nil => exact absurd rfl h
  | cons _ _ => rfl

/-- Joining the pieces gives the text back. -/
@[simp] theorem joinLines_pieces (t : Text) : joinLines (pieces t) = t := by
  induction t with
  | nil => rfl
  | cons c t ih =>
    have hne := splitBy_ne_nil (· == '\n') t
    simp only [pieces, splitBy] at ih ⊢
    by_cases hc : c = '\n'
    · simp [hc, joinLines_cons hne, ih]
    · simp only [beq_iff_eq, hc, if_false]
      cases hp : splitBy (· == '\n') t with
      | nil => exact absurd hp hne
      | cons w ws =>
        rw [hp] at ih
        cases ws with
        | nil => simpa [joinLines] using ih
        | cons v vs => simpa [joinLines] using ih

/-- The piece without one carriage return at its end. -/
def dropReturn : Text → Text
  | [] => []
  | ['\r'] => []
  | c :: t => c :: dropReturn t

/-- Lines of pieces: all but the last were ended by a break. -/
def linesOfPieces : List Text → List Text
  | [] => []
  | [last] => if last = [] then [] else [last]
  | p :: ps => dropReturn p :: linesOfPieces ps

/-- Lines of a text. A carriage return right before a break belongs to the break; a
final break starts no further line. -/
def lines (t : Text) : List Text := linesOfPieces (pieces t)

/-- Pieces that keep the break which ends them; only the last may lack it. -/
def splitInclusive : Text → List Text
  | [] => []
  | c :: t =>
    if c = '\n' then [c] :: splitInclusive t
    else match splitInclusive t with
      | [] => [[c]]
      | w :: ws => (c :: w) :: ws

@[simp] theorem flatten_splitInclusive (t : Text) : (splitInclusive t).flatten = t := by
  induction t with
  | nil => rfl
  | cons c t ih =>
    simp only [splitInclusive]
    split
    · simp [ih]
    · split
      · rename_i h
        simp [h] at ih
        simp [ih]
      · rename_i h
        simp [h] at ih
        simp [ih]

end Exemplar.Text
