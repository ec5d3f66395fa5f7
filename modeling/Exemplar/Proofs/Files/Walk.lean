import Exemplar.Files.Tree
import Mathlib.Data.List.Basic

/-!
# The order of a walk

Names are compared character by character. The bytes of their UTF-8 form are in the same order,
because a larger character begins with a larger byte or goes on with one. Places are compared name
by name, so the files below a directory are listed as they are met when each directory is read in
the byte order of its names.
-/
namespace Exemplar.Text

lemma toNat_val_lt (c : Char) : c.val.toNat < 0x110000 := by
  have h := c.valid
  simp only [UInt32.isValidChar, Nat.isValidChar] at h
  omega

lemma toNat_byte {n : Nat} (h : n < 256) : (UInt8.ofNat n).toNat = n := by
  rw [UInt8.toNat_ofNat', Nat.mod_eq_of_lt h]

/-- A smaller character comes first, whatever follows it. -/
lemma utf8EncodeChar_append_lt {c d : Char} (h : c.toNat < d.toNat) (x y : List UInt8) :
    String.utf8EncodeChar c ++ x < String.utf8EncodeChar d ++ y := by
  rw [← Char.toNat_val, ← Char.toNat_val] at h
  have hd := toNat_val_lt d
  obtain ⟨k, hk⟩ : ∃ k : Nat, x < y ↔ 0 < k := by
    by_cases hxy : x < y
    · exact ⟨1, by simp [hxy]⟩
    · exact ⟨0, by simp [hxy]⟩
  -- the bytes behind the first one are digits to the base 64
  have h2 : ∀ n, n / 4096 = n / 64 / 64 := fun n => (Nat.div_div_eq_div_mul n 64 64).symm
  have h3 : ∀ n, n / 262144 = n / 64 / 64 / 64 := fun n => by rw [← h2, Nat.div_div_eq_div_mul]
  simp only [String.utf8EncodeChar, h2, h3]
  split_ifs <;>
    simp (disch := omega) only [List.cons_append, List.nil_append, List.cons_lt_cons_iff,
      UInt8.lt_iff_toNat_lt, ← UInt8.toNat_inj, toNat_byte, hk] <;> omega

lemma append_lt_append_iff (x : List UInt8) {y z : List UInt8} : x ++ y < x ++ z ↔ y < z := by
  induction x with
  | nil => rfl
  | cons b x ih => simp [ih]

/-- Texts are in the order of their UTF-8 forms. -/
theorem before_iff {s t : Text} : before s t = true ↔ toBytes s < toBytes t := by
  induction s generalizing t with
  | nil =>
    cases t with
    | nil => simp [before]
    | cons d t =>
      obtain ⟨b, x, hd⟩ := List.exists_cons_of_ne_nil (String.utf8EncodeChar_ne_nil (c := d))
      simp [before, toBytes, hd]
  | cons c s ih =>
    cases t with
    | nil => simp [before, toBytes]
    | cons d t =>
      rw [before, toBytes, toBytes, List.flatMap_cons, List.flatMap_cons]
      by_cases hcd : c = d
      · rw [if_pos hcd, ih, hcd, append_lt_append_iff]
        rfl
      · rw [if_neg hcd, decide_eq_true_iff]
        refine ⟨fun h => utf8EncodeChar_append_lt h _ _, fun h => ?_⟩
        by_contra hle
        have hne : c.toNat ≠ d.toNat := fun he => hcd (Char.toNat_inj.1 he)
        have hlt : d.toNat < c.toNat := by omega
        exact List.lt_asymm h (utf8EncodeChar_append_lt hlt _ _)

lemma before_or_before {s t : Text} (h : s ≠ t) : before s t = true ∨ before t s = true := by
  induction s generalizing t with
  | nil =>
    cases t with
    | nil => exact absurd rfl h
    | cons d t => exact .inl rfl
  | cons c s ih =>
    cases t with
    | nil => exact .inr rfl
    | cons d t =>
      by_cases hcd : c = d
      · subst hcd
        simpa [before] using ih fun he => h (by rw [he])
      · have hne : c.toNat ≠ d.toNat := fun he => hcd (Char.toNat_inj.1 he)
        simp only [before, hcd, Ne.symm hcd, if_false, decide_eq_true_iff]
        omega

lemma toBytes_injective {s t : Text} (h : toBytes s = toBytes t) : s = t := by
  by_contra hne
  rcases before_or_before hne with hlt | hlt <;>
    exact List.lt_irrefl _ (h ▸ before_iff.1 hlt)

end Exemplar.Text

namespace Exemplar.Files.Tree

/-- The names of a place as they are compared. -/
def inBytes (p : Place) : List (List UInt8) := p.map Text.toBytes

@[simp] theorem inBytes_cons (a : Text) (p : Place) :
    inBytes (a :: p) = Text.toBytes a :: inBytes p := rfl

lemma nameBefore_iff {a b : Text} : nameBefore a b = true ↔ Text.toBytes a ≤ Text.toBytes b := by
  rw [nameBefore, Bool.not_eq_true', Bool.eq_false_iff, ne_eq, Text.before_iff, List.not_lt]

/-- A place comes before another one if it does name by name. -/
theorem placeBefore_iff {p q : Place} : placeBefore p q = true ↔ inBytes p ≤ inBytes q := by
  fun_induction placeBefore p q with
  | case1 q => simp [inBytes]
  | case2 a as => simp [inBytes]
  | case3 as b bs ih =>
    rw [ih, inBytes_cons, inBytes_cons, List.cons_le_cons_iff]
    simp [Std.lt_irrefl]
  | case4 a as b bs h =>
    have hne : Text.toBytes a ≠ Text.toBytes b := fun he => h (Text.toBytes_injective he)
    rw [nameBefore_iff, inBytes_cons, inBytes_cons, List.cons_le_cons_iff]
    simp only [hne, false_and, or_false]
    exact ⟨(Std.lt_of_le_of_ne · hne), Std.le_of_lt⟩

lemma mem_insertPlace {p r : Place} {ps : List Place} :
    r ∈ insertPlace p ps ↔ r = p ∨ r ∈ ps := by
  induction ps with
  | nil => simp [insertPlace]
  | cons q qs ih =>
    rw [insertPlace]
    split
    · exact List.mem_cons
    · rw [List.mem_cons, ih, List.mem_cons, or_left_comm]

/-- Insertion keeps the order. -/
lemma insertPlace_pairwise {p : Place} {ps : List Place}
    (h : ps.Pairwise fun q r => inBytes q ≤ inBytes r) :
    (insertPlace p ps).Pairwise fun q r => inBytes q ≤ inBytes r := by
  induction ps with
  | nil => simp [insertPlace]
  | cons q qs ih =>
    obtain ⟨hq, hqs⟩ := List.pairwise_cons.1 h
    rw [insertPlace]
    split
    · rename_i hpq
      have hle := placeBefore_iff.1 hpq
      have hrest : ∀ r ∈ qs, inBytes p ≤ inBytes r := fun r hr => List.le_trans hle (hq r hr)
      exact List.pairwise_cons.2 ⟨List.forall_mem_cons.2 ⟨hle, hrest⟩, h⟩
    · rename_i hpq
      have hle : inBytes q ≤ inBytes p := Std.le_of_not_ge (mt placeBefore_iff.2 hpq)
      refine List.pairwise_cons.2 ⟨fun r hr => ?_, ih hqs⟩
      rcases mem_insertPlace.1 hr with rfl | hr
      · exact hle
      · exact hq r hr

/-- The regular files below a directory, each directory read in the byte order of its names. -/
structure Walk (tree : Tree) (directory : Place) (places : List Place) : Prop where
  regular : ∀ r, r ∈ places ↔
    r ≠ [] ∧ ∃ bytes, (directory ++ r, Entry.file bytes) ∈ tree.entries
  ordered : places.Pairwise fun q r => inBytes q ≤ inBytes r

lemma below?_eq_some {directory place r : Place} :
    below? directory place = some r ↔ r ≠ [] ∧ place = directory ++ r := by
  have hstrip : ∀ rest, List.isPrefixOf? directory place = some rest ↔ place = directory ++ rest :=
    fun rest => by rw [List.isPrefixOf?_eq_some_iff_append_eq, eq_comm]
  rw [below?, ← hstrip]
  split
  · rename_i h
    simp [h]
  · rename_i rest hne h
    have hrest : rest ≠ [] := by
      rintro rfl
      exact hne rfl
    rw [h, Option.some.injEq]
    exact ⟨fun he => ⟨he ▸ hrest, he⟩, And.right⟩
  · rename_i h
    simp [h]

/-- The listing of a directory is a walk. -/
theorem walk_filesBelow (tree : Tree) (directory : Place) :
    Walk tree directory (tree.filesBelow directory) := by
  have hsorted : ∀ found : List Place, (∀ r, r ∈ found.foldr insertPlace [] ↔ r ∈ found) ∧
      (found.foldr insertPlace []).Pairwise fun q r => inBytes q ≤ inBytes r := by
    intro found
    induction found with
    | nil => simp
    | cons p found ih =>
      refine ⟨fun r => ?_, insertPlace_pairwise ih.2⟩
      rw [List.foldr_cons, mem_insertPlace, ih.1, List.mem_cons]
  refine ⟨fun r => ?_, (hsorted _).2⟩
  rw [filesBelow, (hsorted _).1, List.mem_filterMap]
  constructor
  · rintro ⟨⟨place, entry⟩, he, hr⟩
    cases entry with
    | file bytes =>
      obtain ⟨hne, rfl⟩ := below?_eq_some.1 hr
      exact ⟨hne, bytes, he⟩
    | directory | link | device => cases hr
  · rintro ⟨hne, bytes, he⟩
    exact ⟨_, he, below?_eq_some.2 ⟨hne, rfl⟩⟩

end Exemplar.Files.Tree
