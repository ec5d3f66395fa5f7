import Exemplar.Diff.Listing
import Mathlib.Data.List.Infix

/-!
# What a script spells

Whatever places the search for a short script proposes, the script keeps, deletes and inserts the
lines of both texts in their order. Sliding an edit exchanges lines that are equal, and gathering
edits moves an insertion behind a deletion only, so neither changes a text. The changes between
two texts therefore have the lines of one as their old lines and the lines of the other as their
new lines.
-/
namespace Exemplar.Diff

namespace Script

@[simp] theorem old_nil : old [] = [] := rfl

@[simp] theorem new_nil : new [] = [] := rfl

@[simp] theorem old_append (s t : Script) : old (s ++ t) = old s ++ old t := List.flatMap_append

@[simp] theorem new_append (s t : Script) : new (s ++ t) = new s ++ new t := List.flatMap_append

end Script

lemma commonStart_isPrefix (as bs : List Text) :
    commonStart as bs <+: as ∧ commonStart as bs <+: bs := by
  fun_induction commonStart as bs with
  | case1 a as bs ih => simpa using ih
  | case2 | case3 => simp

lemma commonEnd_isSuffix (as bs : List Text) :
    commonEnd as bs <:+ as ∧ commonEnd as bs <:+ bs := by
  have h := commonStart_isPrefix as.reverse bs.reverse
  simp only [← List.reverse_suffix, List.reverse_reverse] at h
  exact h

/-- Cutting off a common beginning and a common end loses no line. -/
lemma Trimmed.of_spells (old new : List Text) :
    (of old new).start ++ (of old new).old ++ (of old new).stop = old ∧
      (of old new).start ++ (of old new).new ++ (of old new).stop = new := by
  have hstart := commonStart_isPrefix old new
  have hstop := commonEnd_isSuffix (old.drop (commonStart old new).length)
    (new.drop (commonStart old new).length)
  simp only [of, List.append_assoc, List.suffix_iff_eq_append.1 hstop.1,
    List.suffix_iff_eq_append.1 hstop.2, List.prefix_iff_eq_append.1 hstart.1,
    List.prefix_iff_eq_append.1 hstart.2, and_self]

@[simp] theorem old_keep (o n : Nat) (ls : List Text) : Script.old (keep o n ls) = ls := by
  cases ls <;> simp [keep, Script.old, Edit.old]

@[simp] theorem new_keep (o n : Nat) (ls : List Text) : Script.new (keep o n ls) = ls := by
  cases ls <;> simp [keep, Script.new, Edit.new]

@[simp] theorem old_replaceAll (o n : Nat) (old new : List Text) :
    Script.old (replaceAll o n old new) = old := by
  cases old <;> cases new <;> simp [replaceAll, Script.old, Edit.old]

@[simp] theorem new_replaceAll (o n : Nat) (old new : List Text) :
    Script.new (replaceAll o n old new) = new := by
  cases old <;> cases new <;> simp [replaceAll, Script.new, Edit.new]

/-- The script of two lists spells them, wherever the search cuts them in two. -/
theorem script_spells (oldAt newAt : Nat) (old new : List Text) :
    Script.old (script oldAt newAt old new) = old ∧
      Script.new (script oldAt newAt old new) = new := by
  fun_induction script oldAt newAt old new with
  | case1 oldAt newAt old new t o n inner ihright ihleft =>
    have hinner : Script.old inner = t.old ∧ Script.new inner = t.new := by
      simp only [inner]
      split
      · simp
      split
      · rename_i x y _
        split
        · rename_i h
          have hl := ihleft x y h
          have hr := ihright x y h
          simp [hl, hr]
        · simp
      · simp
    have ht := Trimmed.of_spells old new
    simp only [Script.old_append, Script.new_append, old_keep, new_keep, hinner]
    exact ht

/-- The lines of an edit, unless it is of the kind that is left out. -/
def Edit.without (kind : Kind) (e : Edit) : List Text := if e.kind = kind then [] else e.lines

/-- The old text is what is left of a script without the insertions, the new text what is left
without the deletions. -/
def Script.without (kind : Kind) (s : Script) : List Text := s.flatMap (Edit.without kind)

namespace Script

lemma old_eq_without (s : Script) : old s = without .insert s := by
  have hedit : Edit.old = Edit.without .insert := by
    funext e
    rcases e with ⟨_ | _ | _, ls, o, n⟩ <;> rfl
  rw [old, without, hedit]

lemma new_eq_without (s : Script) : new s = without .delete s := by
  have hedit : Edit.new = Edit.without .delete := by
    funext e
    rcases e with ⟨_ | _ | _, ls, o, n⟩ <;> rfl
  rw [new, without, hedit]

@[simp] theorem without_nil (kind : Kind) : without kind [] = [] := rfl

@[simp] theorem without_cons (kind : Kind) (e : Edit) (s : Script) :
    without kind (e :: s) = e.without kind ++ without kind s := List.flatMap_cons

@[simp] theorem without_append (kind : Kind) (s t : Script) :
    without kind (s ++ t) = without kind s ++ without kind t := List.flatMap_append

end Script

namespace Edit

lemma without_of_equal {kind : Kind} (hk : kind ≠ .equal) {e : Edit} (he : e.kind = .equal) :
    e.without kind = e.lines := if_neg (he ▸ hk.symm)

/-- Of a deletion and an insertion only one is left. -/
lemma without_swap {kind : Kind} (hk : kind ≠ .equal) {d e : Edit} (hd : d.kind ≠ .equal)
    (he : e.kind ≠ .equal) (hne : d.kind ≠ e.kind) :
    d.without kind ++ e.without kind = e.without kind ++ d.without kind := by
  obtain ⟨dk, dls, _, _⟩ := d
  obtain ⟨ek, els, _, _⟩ := e
  cases kind <;> cases dk <;> cases ek <;> simp_all [without]

/-- Edits of one kind are one edit with the lines of both. -/
lemma without_join (kind : Kind) {d e : Edit} {both : Kind} (hd : d.kind = both)
    (he : e.kind = both) (o n : Nat) :
    d.without kind ++ e.without kind = (⟨both, d.lines ++ e.lines, o, n⟩ : Edit).without kind := by
  simp only [without, hd, he]
  split <;> simp

end Edit

namespace Focus
variable {kind : Kind}

lemma without_toScript (kind : Kind) (f : Focus) :
    Script.without kind f.toScript =
      Script.without kind f.before.reverse ++
        (f.this.without kind ++ Script.without kind f.after) := by
  simp [toScript]

/-- Only an insertion shows lines that can slide. -/
lemma kind_of_sliding {e : Edit} (h : sliding e ≠ []) : e.kind = .insert ∧ sliding e = e.lines := by
  obtain ⟨_ | _ | _, ls, o, n⟩ := e <;> simp_all [sliding]

lemma without_growFront (hk : kind ≠ .equal) (ls : List Text) (o n : Nat) (es : List Edit) :
    Script.without kind (growFront ls o n es) = ls ++ Script.without kind es := by
  cases es with
  | nil => simp [growFront, Edit.without, hk.symm]
  | cons e es =>
    by_cases he : e.kind = .equal <;> simp [growFront, Edit.without, he, hk.symm]

lemma without_reverse_growBack (hk : kind ≠ .equal) (ls : List Text) (o n : Nat)
    (es : List Edit) : Script.without kind (growBack ls o n es).reverse =
      Script.without kind es.reverse ++ ls := by
  cases es with
  | nil => simp [growBack, Edit.without, hk.symm]
  | cons e es =>
    by_cases he : e.kind = .equal <;> simp [growBack, Edit.without, he, hk.symm]

/-- Lines that a kept run and the insertion behind it both end in may as well be kept behind the
insertion. -/
lemma without_moved_up (hk : kind ≠ .equal) {prev this : Edit} (hp : prev.kind = .equal)
    {shared : List Text} (hs : shared = commonEnd prev.lines (sliding this))
    (hne : 0 < shared.length) (o n : Nat) :
    prev.lines.take (prev.lines.length - shared.length) ++
        ((moved this (shared ++ this.lines.take (this.lines.length - shared.length)) o n).without
          kind ++ shared) =
      prev.without kind ++ this.without kind := by
  have hend := commonEnd_isSuffix prev.lines (sliding this)
  rw [← hs] at hend
  obtain ⟨hkind, hlines⟩ := kind_of_sliding
    (List.ne_nil_of_length_pos (hne.trans_le hend.2.length_le))
  rw [hlines] at hend
  have hprev := List.suffix_iff_eq_append.1 hend.1
  have hthis := List.suffix_iff_eq_append.1 hend.2
  rw [Edit.without_of_equal hk hp]
  by_cases hi : kind = .insert
  · simp [Edit.without, moved, hkind, hi, hprev]
  · have hi' : Kind.insert ≠ kind := fun h => hi h.symm
    simp only [Edit.without, moved, hkind, hi', if_false, List.append_assoc, hthis]
    rw [← List.append_assoc, hprev]

/-- Lines that a kept run and the insertion before it both begin with may as well be kept before
the insertion. -/
lemma without_moved_down (hk : kind ≠ .equal) {this next : Edit} (hn : next.kind = .equal)
    {shared : List Text} (hs : shared = commonStart next.lines (sliding this))
    (hne : 0 < shared.length) (o n : Nat) :
    shared ++ ((moved this (this.lines.drop shared.length ++ shared) o n).without kind ++
        next.lines.drop shared.length) =
      this.without kind ++ next.without kind := by
  have hstart := commonStart_isPrefix next.lines (sliding this)
  rw [← hs] at hstart
  obtain ⟨hkind, hlines⟩ := kind_of_sliding
    (List.ne_nil_of_length_pos (hne.trans_le hstart.2.length_le))
  rw [hlines] at hstart
  have hnext := List.prefix_iff_eq_append.1 hstart.1
  have hthis := List.prefix_iff_eq_append.1 hstart.2
  rw [Edit.without_of_equal hk hn]
  by_cases hi : kind = .insert
  · simp [Edit.without, moved, hkind, hi, hnext]
  · have hi' : Kind.insert ≠ kind := fun h => hi h.symm
    simp only [Edit.without, moved, hkind, hi', if_false, List.append_assoc, hnext]
    rw [← List.append_assoc, hthis]

/-- What a slide keeps: the kind of the edit in focus, and both texts. -/
structure Keeps (f g : Focus) : Prop where
  kind_eq : g.this.kind = f.this.kind
  without_eq : ∀ kind, kind ≠ .equal →
    Script.without kind g.toScript = Script.without kind f.toScript

lemma Keeps.refl (f : Focus) : Keeps f f := ⟨rfl, fun _ _ => rfl⟩

lemma Keeps.trans {f g h : Focus} (hfg : Keeps f g) (hgh : Keeps g h) : Keeps f h :=
  ⟨hgh.kind_eq.trans hfg.kind_eq,
    fun kind hk => (hgh.without_eq kind hk).trans (hfg.without_eq kind hk)⟩

lemma without_of_before {f : Focus} {prev : Edit} {rest : List Edit} (hb : f.before = prev :: rest)
    (kind : Kind) : Script.without kind f.toScript = Script.without kind rest.reverse ++
      (prev.without kind ++ f.this.without kind ++ Script.without kind f.after) := by
  simp [without_toScript, hb]

lemma without_of_after {f : Focus} {next : Edit} {rest : List Edit} (ha : f.after = next :: rest)
    (kind : Kind) : Script.without kind f.toScript = Script.without kind f.before.reverse ++
      (f.this.without kind ++ next.without kind ++ Script.without kind rest) := by
  simp [without_toScript, ha]

theorem up_keeps {f : Focus} (hf : f.this.kind ≠ .equal) : Keeps f f.up := by
  fun_induction up f with
  | case1 f => exact .refl f
  | case2 f prev rest hb this hp shared n h left after slid hl ih =>
    refine Keeps.trans ?_ (ih hf)
    refine ⟨rfl, fun kind hk => ?_⟩
    have hmoved : left ++ (slid.without kind ++ shared) = prev.without kind ++ this.without kind :=
      without_moved_up hk hp rfl h.1 _ _
    rw [List.isEmpty_iff.1 hl, List.nil_append] at hmoved
    rw [without_of_before hb, ← hmoved, without_toScript, without_growFront hk]
    simp only [List.append_assoc]
  | case3 f prev rest hb this hp shared n h left after slid hl ih =>
    refine Keeps.trans ?_ (ih hf)
    refine ⟨rfl, fun kind hk => ?_⟩
    have hmoved : left ++ (slid.without kind ++ shared) = prev.without kind ++ this.without kind :=
      without_moved_up hk hp rfl h.1 _ _
    rw [without_of_before hb, ← hmoved, without_of_before rfl, without_growFront hk,
      Edit.without_of_equal hk rfl]
    simp only [List.append_assoc]
  | case4 f prev rest hb this hp shared n h hl ih =>
    refine Keeps.trans ?_ (ih hf)
    refine ⟨rfl, fun kind hk => ?_⟩
    rw [without_of_before hb, Edit.without_of_equal hk hp, List.isEmpty_iff.1 hl,
      without_toScript]
    rfl
  | case5 f => exact .refl f
  | case6 f prev rest hb this hp hsame ih =>
    refine Keeps.trans ?_ (ih hf)
    refine ⟨rfl, fun kind hk => ?_⟩
    rw [without_of_before hb, Edit.without_join kind hsame rfl, without_toScript]
  | case7 f prev rest hb this hp hne ih =>
    refine Keeps.trans ?_ (ih hf)
    refine ⟨rfl, fun kind hk => ?_⟩
    rw [without_of_before hb, Edit.without_swap hk hp hf hne, without_of_after rfl]

theorem down_keeps {f : Focus} (hf : f.this.kind ≠ .equal) : Keeps f f.down := by
  fun_induction down f with
  | case1 f => exact .refl f
  | case2 f next rest ha this hn shared n h left before slid hl ih =>
    refine Keeps.trans ?_ (ih hf)
    refine ⟨rfl, fun kind hk => ?_⟩
    have hmoved : shared ++ (slid.without kind ++ left) = this.without kind ++ next.without kind :=
      without_moved_down hk hn rfl h.1 _ _
    rw [List.isEmpty_iff.1 hl, List.append_nil] at hmoved
    rw [without_of_after ha, ← hmoved, without_toScript, without_reverse_growBack hk]
    simp only [List.append_assoc]
  | case3 f next rest ha this hn shared n h left before slid hl ih =>
    refine Keeps.trans ?_ (ih hf)
    refine ⟨rfl, fun kind hk => ?_⟩
    have hmoved : shared ++ (slid.without kind ++ left) = this.without kind ++ next.without kind :=
      without_moved_down hk hn rfl h.1 _ _
    rw [without_of_after ha, ← hmoved, without_of_after rfl, without_reverse_growBack hk,
      Edit.without_of_equal (e := ⟨.equal, left, _, _⟩) hk rfl]
    simp only [List.append_assoc]
  | case4 f next rest ha this hn shared n h hl ih =>
    refine Keeps.trans ?_ (ih hf)
    refine ⟨rfl, fun kind hk => ?_⟩
    rw [without_of_after ha, Edit.without_of_equal hk hn, List.isEmpty_iff.1 hl,
      without_toScript, List.append_nil]
  | case5 f => exact .refl f
  | case6 f next rest ha this hn hsame ih =>
    refine Keeps.trans ?_ (ih hf)
    refine ⟨rfl, fun kind hk => ?_⟩
    rw [without_of_after ha, Edit.without_join kind rfl hsame, without_toScript]
  | case7 f next rest ha this hn hne ih =>
    refine Keeps.trans ?_ (ih hf)
    refine ⟨rfl, fun kind hk => ?_⟩
    rw [without_of_after ha, Edit.without_swap hk hf hn (Ne.symm hne), without_of_before rfl]

end Focus

/-- Sliding the edits of a kind one after the other changes neither text. -/
lemma without_slideAll {kind : Kind} (hk : kind ≠ .equal) {slides : Kind} (hs : slides ≠ .equal)
    (before : List Edit) (fuel : Nat) (rest : List Edit) :
    Script.without kind (slideAll slides before fuel rest) =
      Script.without kind (before.reverse ++ rest) := by
  fun_induction slideAll slides before fuel rest with
  | case1 | case2 => simp
  | case3 before fuel e es he f ih =>
    have hkind : e.kind ≠ .equal := he ▸ hs
    have hup := Focus.up_keeps (f := ⟨before, e, es⟩) hkind
    have hdown : Focus.Keeps _ f := Focus.down_keeps (hup.kind_eq ▸ hkind)
    have hkeeps : Script.without kind f.toScript = Script.without kind (before.reverse ++ e :: es) :=
      (hup.trans hdown).without_eq kind hk
    rw [ih, ← hkeeps, Focus.toScript, List.reverse_cons, List.append_assoc, List.singleton_append]
  | case4 before fuel e es he ih => simpa using ih

theorem compact_spells (s : Script) :
    Script.old (compact s) = Script.old s ∧ Script.new (compact s) = Script.new s := by
  simp [Script.old_eq_without, Script.new_eq_without, compact, without_slideAll]

namespace Pending

/-- Lines that are removed between two kept runs. -/
def old (p : Pending) : List Text := (p.removed.map Edit.lines).getD []

/-- Lines that are added between two kept runs. -/
def new (p : Pending) : List Text := (p.added.map Edit.lines).getD []

lemma change_spells (p : Pending) :
    p.change.flatMap Change.old = p.old ∧ p.change.flatMap Change.new = p.new := by
  obtain ⟨_ | d, _ | i⟩ := p <;> simp [change, old, new, Change.old, Change.new]

lemma lines_join (e : Edit) (first : Option Edit) :
    ((join e first).map Edit.lines).getD [] = (first.map Edit.lines).getD [] ++ e.lines := by
  cases first <;> simp [join]

end Pending

theorem gather_spells (p : Pending) (s : Script) :
    (gather p s).flatMap Change.old = p.old ++ Script.old s ∧
      (gather p s).flatMap Change.new = p.new ++ Script.new s := by
  induction s generalizing p with
  | nil => simpa [gather] using p.change_spells
  | cons e es ih =>
    obtain ⟨kind, ls, o, n⟩ := e
    cases kind with
    | delete =>
      simp only [gather, ih]
      simp [Pending.old, Pending.new, Pending.lines_join, Script.old, Script.new, Edit.old, Edit.new]
    | insert =>
      simp only [gather, ih]
      simp [Pending.old, Pending.new, Pending.lines_join, Script.old, Script.new, Edit.old, Edit.new]
    | equal =>
      have hrest := ih Pending.none
      simp only [gather, List.flatMap_append, p.change_spells]
      -- kept lines that follow are joined to these
      rcases hg : gather Pending.none es with _ | ⟨_ | _, cs⟩ <;>
        rw [hg] at hrest <;>
        simpa [Change.old, Change.new, Script.old, Script.new, Edit.old, Edit.new, Pending.old,
          Pending.new, Pending.none] using hrest

/-- The old lines of the changes between two texts are the lines of the one, the new lines those of
the other. -/
theorem changes_spell (expected actual : Text) :
    (changes expected actual).flatMap Change.old = splitLines expected ∧
      (changes expected actual).flatMap Change.new = splitLines actual := by
  have hscript := script_spells 0 0 (splitLines expected) (splitLines actual)
  have hcompact := compact_spells (script 0 0 (splitLines expected) (splitLines actual))
  have hgather := gather_spells Pending.none
    (compact (script 0 0 (splitLines expected) (splitLines actual)))
  rw [hcompact.1, hcompact.2, hscript.1, hscript.2] at hgather
  exact hgather

end Exemplar.Diff
