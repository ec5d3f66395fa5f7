/-!
# Texts

A text is the list of its characters. Offsets in reports are measured in bytes of
the UTF-8 form, so a text has a byte size beside its length. The laws say that both
counts are additive.
-/
namespace Exemplar

abbrev Text := List Char

namespace Text

/-- Bytes of the UTF-8 form: the unit of every reported offset. -/
def byteSize : Text → Nat
  | [] => 0
  | c :: t => c.utf8Size + byteSize t

@[simp] theorem byteSize_nil : byteSize [] = 0 := rfl

@[simp] theorem byteSize_cons (c : Char) (t : Text) :
    byteSize (c :: t) = c.utf8Size + byteSize t := rfl

@[simp] theorem byteSize_append (s t : Text) : byteSize (s ++ t) = byteSize s + byteSize t := by
  induction s with
  | nil => simp
  | cons c s ih => simp [ih, Nat.add_assoc]

/-- Every character takes at least one byte. -/
theorem length_le_byteSize (t : Text) : t.length ≤ byteSize t := by
  induction t with
  | nil => simp
  | cons c t ih => have := c.utf8Size_pos; simp only [List.length_cons, byteSize_cons]; omega

/-- Line breaks of a text. -/
def newlines (t : Text) : Nat := t.count '\n'

@[simp] theorem newlines_nil : newlines [] = 0 := rfl

@[simp] theorem newlines_append (s t : Text) : newlines (s ++ t) = newlines s + newlines t :=
  List.count_append

/-- Order of texts by their characters. -/
def before : Text → Text → Bool
  | _, [] => false
  | [], _ :: _ => true
  | c :: s, d :: t => if c = d then before s t else decide (c.toNat < d.toNat)

/-- A decimal number as a text. -/
def ofNat (n : Nat) : Text := (toString n).toList

end Text

end Exemplar
