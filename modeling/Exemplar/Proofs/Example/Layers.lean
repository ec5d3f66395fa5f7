import Exemplar.Proofs.Example.Flags
import Exemplar.Proofs.Text.Words

/-!
# Options in layers

Options that are unset in one place are taken from another: an example's from those of the run, a
line's from those of the lines before it. It makes no difference whether the flags of both places
are written one behind the other, or read by themselves and merged. The text of the flags has a
say in this only through the comment closers at its end, so the first part may not end in one.
-/
namespace Exemplar.Options
open Text

@[simp] theorem none_withDefaults (o : Options) : none.withDefaults o = o := by
  simp [withDefaults, none]

@[simp] theorem withDefaults_none (o : Options) : o.withDefaults none = o := by
  simp [withDefaults, none]

/-- A flag does not care where the options come from that it leaves alone. -/
lemma set_withDefaults (o below : Options) (f : Flag) :
    (o.withDefaults below).set f = (o.set f).withDefaults below := by
  cases f <;> simp [set, withDefaults]

lemma setTokens_withDefaults (o below : Options) (tokens : List Text) :
    (o.withDefaults below).setTokens tokens = (o.setTokens tokens).map (·.withDefaults below) := by
  induction tokens generalizing o with
  | nil => rfl
  | cons token tokens ih =>
    rw [setTokens, setTokens]
    cases Flag.ofToken? token with
    | none => rfl
    | some f => simp only [set_withDefaults, ih]

/-- What comes of two places, the second of which takes precedence. -/
def layer : Except Text Options → Except Text Options → Except Text Options
  | .error token, _ => .error token
  | .ok _, .error token => .error token
  | .ok below, .ok above => .ok (above.withDefaults below)

/-- Flags set on top of options are flags that have these options as defaults. -/
lemma setTokens_eq_layer (o : Options) (tokens : List Text) :
    o.setTokens tokens = layer (.ok o) (none.setTokens tokens) := by
  have h := setTokens_withDefaults none o tokens
  rw [none_withDefaults] at h
  rw [h]
  cases none.setTokens tokens <;> rfl

lemma setTokens_append_eq_layer (tokens more : List Text) :
    none.setTokens (tokens ++ more) = layer (none.setTokens tokens) (none.setTokens more) := by
  rw [setTokens_append]
  cases none.setTokens tokens with
  | error token => rfl
  | ok o => exact setTokens_eq_layer o more

/-- A space keeps a closer from reaching into the text before it. -/
lemma stripSuffix?_behind_space {closer : Text} (hc : ' ' ∉ closer) (d t : Text) :
    stripSuffix? closer (d ++ ' ' :: t) = (stripSuffix? closer t).map (d ++ ' ' :: ·) := by
  ext u
  simp only [stripSuffix?_eq_some, Option.map_eq_some_iff]
  constructor
  · intro h
    rcases List.append_eq_append_iff.1 h with ⟨v, rfl, hv⟩ | ⟨v, rfl, hv⟩
    · cases v with
      | nil =>
        obtain rfl : ' ' :: t = closer := hv
        exact absurd List.mem_cons_self hc
      | cons c v =>
        obtain ⟨rfl, ht⟩ := List.cons.inj hv
        exact ⟨v, ht, rfl⟩
    · exact absurd (hv ▸ List.mem_append_right v List.mem_cons_self) hc
  · rintro ⟨v, rfl, rfl⟩
    simp

lemma dropTrailers_of_allBlank {flags : Text} (h : allBlank flags = true) :
    dropTrailers flags = [] := by
  rw [dropTrailers, trimEnd_eq_nil.2 h]
  decide

/-- Closers are cut off the second part as if it stood alone. -/
lemma dropTrailers_behind_space (d : Text) {e : Text} (he : allBlank e = false) :
    dropTrailers (d ++ ' ' :: e) = d ++ ' ' :: dropTrailers e := by
  have htrim : trimEnd (d ++ ' ' :: e) = d ++ ' ' :: trimEnd e := by
    simpa using trimEnd_append (s := d ++ [' ']) he
  have hspace : ∀ closer ∈ trailers, ' ' ∉ closer := by decide
  rw [dropTrailers, dropTrailers, htrim]
  generalize trailers = closers at hspace ⊢
  generalize trimEnd e = t
  induction closers generalizing t with
  | nil => rfl
  | cons closer closers ih =>
    rw [List.forall_mem_cons] at hspace
    rw [List.foldl_cons, List.foldl_cons, stripSuffix?_behind_space hspace.1, Option.getD_map]
    exact ih hspace.2 _

lemma dropTrailers_of_open {flags : Text} (h : ∀ closer ∈ trailers, ¬ closer <:+ trimEnd flags) :
    dropTrailers flags = trimEnd flags := by
  rw [dropTrailers]
  generalize trailers = closers at h ⊢
  induction closers with
  | nil => rfl
  | cons closer closers ih =>
    rw [List.forall_mem_cons] at h
    have hnone : stripSuffix? closer (trimEnd flags) = .none := by
      rw [Option.eq_none_iff_forall_ne_some]
      intro u hu
      exact h.1 ⟨u, (stripSuffix?_eq_some.1 hu).symm⟩
    rw [List.foldl_cons, hnone]
    exact ih h.2

/-- The flags of both parts are set one after the other. -/
lemma words_dropTrailers_append {d : Text} (hd : ∀ closer ∈ trailers, ¬ closer <:+ trimEnd d)
    (e : Text) : words (dropTrailers (d ++ ' ' :: e)) =
      words (dropTrailers d) ++ words (dropTrailers e) := by
  rw [dropTrailers_of_open hd, words_trimEnd]
  by_cases he : allBlank e = true
  · have hblank : allBlank (' ' :: e) = true := by
      rw [allBlank_iff, List.forall_mem_cons]
      exact ⟨by decide, allBlank_iff.1 he⟩
    have htrim : trimEnd (d ++ ' ' :: e) = trimEnd d := trimEnd_append_allBlank d hblank
    have hopen : ∀ closer ∈ trailers, ¬ closer <:+ trimEnd (d ++ ' ' :: e) := by rwa [htrim]
    rw [dropTrailers_of_open hopen, htrim, words_trimEnd, dropTrailers_of_allBlank he]
    exact (List.append_nil _).symm
  · rw [dropTrailers_behind_space d (by simpa using he), words_append_blank d (by decide)]

/-- The options of one statement line. -/
def ofLine (statement : Text) : Except Text Options :=
  match breakOn tag statement with
  | Option.none => .ok none
  | some (_, flags) => ofFlags flags

lemma foldl_layer_error (token : Text) (layers : List (Except Text Options)) :
    layers.foldl layer (.error token) = .error token := by
  induction layers with
  | nil => rfl
  | cons _ layers ih => exact ih

/-- Every line is a layer over all lines before it. -/
lemma setStatements_eq_foldl (o : Options) (statements : List Text) :
    o.setStatements statements = (statements.map ofLine).foldl layer (.ok o) := by
  induction statements generalizing o with
  | nil => rfl
  | cons s statements ih =>
    rw [setStatements, List.map_cons, List.foldl_cons, ofLine]
    cases breakOn tag s with
    | none => simp only [layer, none_withDefaults, ih]
    | some found =>
      simp only [setFlags, ofFlags]
      rw [setTokens_eq_layer o]
      cases none.setTokens (words (dropTrailers found.2)) with
      | error token => exact (foldl_layer_error token _).symm
      | ok p => exact ih _

/-- Flags behind others are these flags with the others as defaults, unless the first end in a
comment closer. The flags of statement lines are merged from the first line to the last, so a later
line takes precedence. In both cases the first bad token is the error. -/
theorem ofFlags_ofStatements_layered (d e : Text)
    (hd : ∀ closer ∈ trailers, ¬ closer <:+ trimEnd d) (statements : List Text) :
    ofFlags (d ++ ' ' :: e) = layer (ofFlags d) (ofFlags e) ∧
      (∀ flags token, ofFlags flags = .error token ↔
        firstBad? (words (dropTrailers flags)) = some token) ∧
      ofStatements statements = (statements.map ofLine).foldl layer (.ok none) ∧
      (∀ token, ofStatements statements = .error token ↔
        firstBad? (statements.flatMap lineTokens) = some token) := by
  refine ⟨?_, fun _ _ => setTokens_eq_error, setStatements_eq_foldl none statements,
    fun _ => ofStatements_eq_error⟩
  rw [ofFlags, setFlags, words_dropTrailers_append hd]
  exact setTokens_append_eq_layer _ _

/-- A time limit of the run stays, its blanks do not, and the closer belongs to the example. The
second line of the statements overrides the first. -/
theorem ofFlags_ofStatements_layered_overridden :
    (∀ closer ∈ trailers, ¬ closer <:+ trimEnd "+norm-ws +timeout=8 ".toList) ∧
      ofFlags ("+norm-ws +timeout=8 ".toList ++ ' ' :: "-norm-ws */".toList) =
        .ok ⟨false, false, false, some false, .none, .none, some (Duration.ofParts 8 0)⟩ ∧
      ofStatements ["f( // byexample: +skip +tags".toList, ") // byexample: -tags".toList] =
        .ok ⟨true, false, false, .none, some false, .none, .none⟩ := by
  have hopen : ∀ closer ∈ trailers, ¬ closer <:+ trimEnd "+norm-ws +timeout=8 ".toList := by
    decide
  obtain ⟨happend, -, hlines, -⟩ := ofFlags_ofStatements_layered "+norm-ws +timeout=8 ".toList
    "-norm-ws */".toList hopen
    ["f( // byexample: +skip +tags".toList, ") // byexample: -tags".toList]
  refine ⟨hopen, ?_, ?_⟩
  · rw [happend]
    decide +kernel
  · rw [hlines]
    decide +kernel

end Exemplar.Options
