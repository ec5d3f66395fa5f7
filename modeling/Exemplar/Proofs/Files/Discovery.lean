import Exemplar.Files.Discovery
import Exemplar.Proofs.Files.Walk
import Mathlib

/-!
# Laws of discovery

Each argument stands for files of its own, whatever the other arguments are. The files of all
arguments are listed without those that are skipped and without repetitions. Whether a path is
skipped depends on its components only, as does its being a repetition, so it makes no difference
which of the two is left out first.
-/
namespace Exemplar.Files

lemma same_iff {f g : Path} : Path.same f g = true ↔ Path.components f = Path.components g :=
  beq_iff_eq

/-- A path that is in a list under another spelling, if at all. -/
def Listed (listed : List Path) (f : Path) : Prop :=
  ∃ g ∈ listed, Path.components f = Path.components g

instance (listed : List Path) (f : Path) : Decidable (Listed listed f) :=
  inferInstanceAs (Decidable (∃ g ∈ listed, _))

/-- Every path once, where it stands first. -/
def distinct (ps : List Path) : List Path := addNew [] ps

variable {listed ps qs : List Path} {f g p : Path}

lemma any_same_iff : listed.any (Path.same f) = true ↔ Listed listed f := by
  simp only [List.any_eq_true, same_iff, Listed]

lemma not_listed_nil : ¬ Listed [] f := fun ⟨_, h, _⟩ => List.not_mem_nil h

lemma listed_append : Listed (ps ++ qs) f ↔ Listed ps f ∨ Listed qs f := by
  simp only [Listed, List.mem_append, or_and_right, exists_or]

lemma listed_singleton : Listed [g] f ↔ Path.components f = Path.components g := by
  simp [Listed]

lemma Listed.congr (h : Path.components f = Path.components g) :
    Listed listed f ↔ Listed listed g := by
  rw [Listed, h, Listed]

lemma addNew_cons (listed : List Path) (p : Path) (ps : List Path) :
    addNew listed (p :: ps) = addNew (if Listed listed p then listed else listed ++ [p]) ps := by
  rw [addNew]
  simp only [any_same_iff]

/-- What is added to a list is what would be listed without it, less what it holds already. -/
theorem addNew_eq (listed ps : List Path) :
    addNew listed ps = listed ++ (distinct ps).filter (¬ Listed listed ·) := by
  induction ps generalizing listed with
  | nil => simp [distinct, addNew]
  | cons p ps ih =>
    have hfirst : distinct (p :: ps) = p :: (distinct ps).filter (¬ Listed [p] ·) := by
      rw [distinct, addNew_cons, if_neg not_listed_nil, ih]
      rfl
    rw [addNew_cons, ih, hfirst]
    by_cases hp : Listed listed p
    · -- a later spelling of the path is in the list as well
      have hagree : ∀ f, ¬ Listed listed f ∧ ¬ Listed [p] f ↔ ¬ Listed listed f := by
        intro f
        rw [and_iff_left_iff_imp, listed_singleton]
        exact fun hf he => hf ((Listed.congr he).2 hp)
      rw [if_pos hp, List.filter_cons_of_neg (by simpa using hp), List.filter_filter]
      simp only [← Bool.decide_and, hagree]
    · have hagree : ∀ f, ¬ Listed listed f ∧ ¬ Listed [p] f ↔ ¬ Listed (listed ++ [p]) f := by
        intro f
        rw [listed_append, not_or]
      rw [if_neg hp, List.filter_cons_of_pos (by simpa using hp), List.filter_filter,
        List.append_assoc, List.singleton_append]
      simp only [← Bool.decide_and, hagree]

lemma addNew_addNew (listed ps qs : List Path) :
    addNew (addNew listed ps) qs = addNew listed (ps ++ qs) := by
  induction ps generalizing listed with
  | nil => rfl
  | cons p ps ih => exact ih _

theorem distinct_cons (p : Path) (ps : List Path) :
    distinct (p :: ps) = p :: (distinct ps).filter (Path.components · ≠ Path.components p) := by
  have h := addNew_eq [p] ps
  rw [distinct, addNew_cons, if_neg not_listed_nil]
  simp only [listed_singleton] at h
  exact h

theorem distinct_append (ps qs : List Path) :
    distinct (ps ++ qs) = distinct ps ++ (distinct qs).filter (¬ Listed (distinct ps) ·) := by
  rw [distinct, ← addNew_addNew, addNew_eq]
  rfl

/-- A list may be cut down by components before or after the repetitions are left out. -/
theorem distinct_filter {k : Path → Prop} [DecidablePred k]
    (hk : ∀ {f g}, Path.components f = Path.components g → (k f ↔ k g)) (ps : List Path) :
    distinct (ps.filter k) = (distinct ps).filter k := by
  induction ps with
  | nil => rfl
  | cons p ps ih =>
    rw [distinct_cons]
    by_cases hp : k p
    · rw [List.filter_cons_of_pos (by simpa using hp), List.filter_cons_of_pos (by simpa using hp),
        distinct_cons, ih, List.filter_filter, List.filter_filter]
      simp only [Bool.and_comm]
    · -- all spellings of the path go with it
      rw [List.filter_cons_of_neg (by simpa using hp), List.filter_cons_of_neg (by simpa using hp),
        ih, List.filter_filter]
      apply List.filter_congr
      intro f _
      by_cases he : Path.components f = Path.components p
      · simp [he, hk he, hp]
      · simp [he]

lemma distinct_sublist (ps : List Path) : (distinct ps).Sublist ps := by
  induction ps with
  | nil => exact List.Sublist.refl _
  | cons p ps ih =>
    rw [distinct_cons]
    exact (List.filter_sublist.trans ih).cons_cons p

lemma distinct_pairwise (ps : List Path) :
    (distinct ps).Pairwise fun f g => Path.components f ≠ Path.components g := by
  induction ps with
  | nil => exact List.Pairwise.nil
  | cons p ps ih =>
    rw [distinct_cons, List.pairwise_cons]
    refine ⟨fun g hg he => ?_, ih.filter _⟩
    simp [he] at hg

lemma listed_distinct (h : f ∈ ps) : Listed (distinct ps) f := by
  induction ps with
  | nil => cases h
  | cons p ps ih =>
    rw [distinct_cons]
    by_cases he : Path.components f = Path.components p
    · exact ⟨p, List.mem_cons_self, he⟩
    · obtain ⟨g, hg, hfg⟩ := ih ((List.mem_cons.1 h).resolve_left fun hp => he (hp ▸ rfl))
      refine ⟨g, List.mem_cons_of_mem p (List.mem_filter.2 ⟨hg, ?_⟩), hfg⟩
      simpa [← hfg] using he

/-- At one of the paths or below it. -/
def Covered (skip : List Path) (f : Path) : Prop :=
  ∃ s ∈ skip, Path.components s <+: Path.components f

lemma isSkipped_iff {skip : List Path} : isSkipped skip f = true ↔ Covered skip f := by
  simp [isSkipped, Path.isWithin, Covered]

lemma Covered.congr {skip : List Path} (h : Path.components f = Path.components g) :
    Covered skip f ↔ Covered skip g := by
  rw [Covered, h, Covered]

instance (skip : List Path) (f : Path) : Decidable (Covered skip f) :=
  inferInstanceAs (Decidable (∃ s ∈ skip, _))

/-- What an argument stands for: a directory for the files below it that have a comment rule, in the
order of a walk, and anything else for itself. -/
inductive StandsFor (tree : Tree) (a : Path) : List Path → Prop
  | itself (h : tree.directory? a = none) : StandsFor tree a [a]
  | directory {place : Place} {places : List Place} (h : tree.directory? a = some place)
      (hw : tree.Walk place places) :
      StandsFor tree a ((places.map (Path.descend a)).filter fun f => (ruleFor? f).isSome)

lemma standsFor_expand (tree : Tree) (a : Path) : StandsFor tree a (expand tree a) := by
  rw [expand]
  split
  · rename_i place h
    exact .directory h (tree.walk_filesBelow place)
  · rename_i h
    exact .itself h

/-- The files of arguments, with repetitions. -/
def filesOf (tree : Tree) (arguments : List Path) : List Path := arguments.flatMap (expand tree)

lemma discoverFrom_eq {tree : Tree} {arguments : List Path}
    (h : ∀ a ∈ arguments, tree.exists? a = true) (skip listed : List Path) :
    discoverFrom tree skip listed arguments =
      .ok (addNew listed ((filesOf tree arguments).filter (!isSkipped skip ·))) := by
  induction arguments generalizing listed with
  | nil => rfl
  | cons a arguments ih =>
    obtain ⟨ha, h⟩ := List.forall_mem_cons.1 h
    rw [discoverFrom, if_pos ha, ih h, addNew_addNew, ← List.filter_append, filesOf, filesOf,
      List.flatMap_cons]

/-- Arguments that exist give all their files but those that are skipped, each of them once. -/
lemma discover_eq {tree : Tree} {arguments : List Path}
    (h : ∀ a ∈ arguments, tree.exists? a = true) (skip : List Path) :
    discover tree arguments skip =
      .ok (distinct ((filesOf tree arguments).filter (¬ Covered skip ·))) := by
  have hkeep : ∀ f, (!isSkipped skip f) = decide (¬ Covered skip f) := by
    intro f
    rw [Bool.eq_iff_iff, Bool.not_eq_true', Bool.eq_false_iff, ne_eq, isSkipped_iff,
      decide_eq_true_iff]
  rw [discover, discoverFrom_eq h]
  simp only [hkeep]
  rfl

lemma not_covered_nil : ¬ Covered [] f := fun ⟨_, h, _⟩ => List.not_mem_nil h

/-- The files that arguments give are different by components and none of them is skipped. Without
skipped paths the same files are given in the same order, and those that are skipped between them.
Arguments behind others add what they give alone, less what is given already. What is given without
skipped paths are the files that the arguments stand for, in their order and each of them once. -/
theorem discover_laws (tree : Tree) (skip : List Path) {p q : List Path}
    (hp : ∀ a ∈ p, tree.exists? a = true) (hq : ∀ a ∈ q, tree.exists? a = true) :
    ∃ given all others both : List Path,
      discover tree p skip = .ok given ∧ discover tree p [] = .ok all ∧
      discover tree q skip = .ok others ∧ discover tree (p ++ q) skip = .ok both ∧
      (given.Pairwise fun f g => Path.components f ≠ Path.components g) ∧
      (∀ f ∈ given, ¬ Covered skip f) ∧
      given = all.filter (¬ Covered skip ·) ∧
      both = given ++ others.filter (¬ Listed given ·) ∧
      ∃ files, List.Forall₂ (StandsFor tree) p files ∧ all.Sublist files.flatten ∧
        ∀ f ∈ files.flatten, Listed all f := by
  have hpq : ∀ a ∈ p ++ q, tree.exists? a = true :=
    fun a ha => (List.mem_append.1 ha).elim (hp a) (hq a)
  have hall : (filesOf tree p).filter (¬ Covered [] ·) = filesOf tree p :=
    List.filter_eq_self.2 fun f _ => decide_eq_true not_covered_nil
  have hgiven := discover_eq hp skip
  have hnone := hall ▸ discover_eq hp []
  have hskipped : ∀ f ∈ distinct ((filesOf tree p).filter (¬ Covered skip ·)), ¬ Covered skip f :=
    fun f hf => of_decide_eq_true (List.mem_filter.1 ((distinct_sublist _).subset hf)).2
  have hcut : distinct ((filesOf tree p).filter (¬ Covered skip ·)) =
      (distinct (filesOf tree p)).filter (¬ Covered skip ·) :=
    distinct_filter (fun he => not_congr (Covered.congr he)) _
  have hboth := discover_eq hpq skip
  rw [filesOf, List.flatMap_append, List.filter_append, distinct_append] at hboth
  have hstands : List.Forall₂ (StandsFor tree) p (p.map (expand tree)) := by
    rw [List.forall₂_map_right_iff, List.forall₂_same]
    exact fun a _ => standsFor_expand tree a
  have hfiles : (p.map (expand tree)).flatten = filesOf tree p := List.flatMap_def.symm
  refine ⟨_, _, _, _, hgiven, hnone, discover_eq hq skip, hboth, distinct_pairwise _, hskipped, hcut,
    rfl, _, hstands, ?_, ?_⟩
  · rw [hfiles]
    exact distinct_sublist _
  · rw [hfiles]
    exact fun f hf => listed_distinct hf

/-- Two files are named in two spellings each, and again by their directory. The last argument lies
in the skipped directory, whose name begins like that of a file. -/
theorem discover_laws_spellings :
    ∃ (tree : Tree) (skip p q : List Path),
      (∀ a ∈ p, tree.exists? a = true) ∧ (∀ a ∈ q, tree.exists? a = true) ∧
      discover tree p skip = .ok ["a//b.py".toList] ∧
      discover tree (p ++ q) skip = .ok ["a//b.py".toList, "a/d.md".toList] := by
  let tree : Tree :=
    ⟨[(["a".toList, "d.md".toList], .file []), (["a".toList, "d".toList, "x.py".toList], .file []),
      (["a".toList, "b.py".toList], .file []), (["a".toList, "notes".toList], .file [])], []⟩
  let skip : List Path := ["a/d/".toList]
  let p : List Path := ["a//b.py".toList, "a/./b.py".toList]
  let q : List Path := ["a".toList, "a//d.md".toList, "a/d/x.py".toList]
  have hp : ∀ a ∈ p, tree.exists? a = true := List.all_eq_true.1 (by cbv)
  have hq : ∀ a ∈ q, tree.exists? a = true := List.all_eq_true.1 (by cbv)
  obtain ⟨given, all, others, both, hgiven, -, hothers, hboth, -, -, -, heq, -⟩ :=
    discover_laws tree skip hp hq
  have hfirst : discover tree p skip = .ok ["a//b.py".toList] := by cbv
  have hsecond : discover tree q skip = .ok ["a/b.py".toList, "a/d.md".toList] := by cbv
  rw [hfirst] at hgiven
  rw [hsecond] at hothers
  obtain rfl := Except.ok.inj hgiven
  obtain rfl := Except.ok.inj hothers
  refine ⟨tree, skip, p, q, hp, hq, hfirst, hboth.trans (congrArg _ (heq.trans ?_))⟩
  decide

end Exemplar.Files
