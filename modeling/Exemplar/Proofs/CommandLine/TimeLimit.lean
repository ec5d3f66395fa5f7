import Exemplar.Proofs.CommandLine.Configuration
import Exemplar.Proofs.Example.Layers
import Exemplar.Proofs.Number.Literal
import Exemplar.Proofs.Number.Rounding
import Exemplar.Proofs.Text.Occurrence

/-!
# Time limits that are accepted

A time limit may be given by a flag of an example, by a flag of the run, by an argument and by a
variable of the environment. They all accept the same literals, those of positive numbers below
`2 ^ 64`, and the limit is the nearest number of nanoseconds. It is the number that has to be
positive and not the limit, so a limit of zero is accepted for numbers up to half a nanosecond.
-/
namespace Exemplar.Options
open Text Number

/-- The flag that sets a time limit. -/
def limitFlag (v : Text) : Text := "+timeout=".toList ++ v

/-- Nothing is set but the time limit. -/
def ofLimit (d : Duration) : Options := { none with timeout := some d }

/-- The value of a flag for the time limit. -/
def limitValue? (token : Text) : Option Text := stripPrefix? "+timeout=".toList token

/-- The value that decides on the time limit: that of the last flag for it. -/
def lastLimit? (tokens : List Text) : Option Text := (tokens.filterMap limitValue?).getLast?

lemma set_named {name : Text} {on : Bool} {flag : Flag} (h : Flag.named? name on = some flag)
    (o : Options) : (o.set flag).timeout = o.timeout := by
  unfold Flag.named? at h
  split_ifs at h <;> obtain rfl := Option.some.inj h <;> rfl

/-- A flag has a say in the time limit only if it has a value for it, and then the value is one. -/
lemma set_timeout {token : Text} {flag : Flag} (h : Flag.ofToken? token = some flag) (o : Options) :
    (limitValue? token = .none ∧ (o.set flag).timeout = o.timeout) ∨
      ∃ v d, limitValue? token = some v ∧ Duration.parseLimit v = .ok d ∧
        (o.set flag).timeout = some d := by
  unfold Flag.ofToken? at h
  split at h
  · rename_i v hv
    cases hd : Duration.parseLimit v with
    | error e =>
      rw [hd] at h
      cases h
    | ok d =>
      rw [hd] at h
      obtain rfl := Option.some.inj h
      exact .inr ⟨v, d, hv, hd, rfl⟩
  · rename_i hv
    refine .inl ⟨hv, ?_⟩
    split at h
    · exact set_named h o
    · exact set_named h o
    · cases h

/-- The last flag for the time limit decides, and its value is one. -/
lemma setTokens_timeout {tokens : List Text} {o o' : Options} (h : o.setTokens tokens = .ok o') :
    (lastLimit? tokens = .none ∧ o'.timeout = o.timeout) ∨
      ∃ v d, lastLimit? tokens = some v ∧ Duration.parseLimit v = .ok d ∧
        o'.timeout = some d := by
  induction tokens generalizing o with
  | nil =>
    obtain rfl := Except.ok.inj h
    exact .inl ⟨rfl, rfl⟩
  | cons token tokens ih =>
    rw [setTokens] at h
    cases hf : Flag.ofToken? token with
    | none =>
      rw [hf] at h
      cases h
    | some flag =>
      rw [hf] at h
      rcases ih h with ⟨hnone, ho⟩ | ⟨v, d, hv, hd, ho⟩
      · have htail : tokens.filterMap limitValue? = [] := List.getLast?_eq_none_iff.1 hnone
        rw [ho]
        rcases set_timeout hf o with ⟨htoken, hset⟩ | ⟨v, d, htoken, hd, hset⟩
        · exact .inl ⟨by simp [lastLimit?, htoken, htail], hset⟩
        · exact .inr ⟨v, d, by simp [lastLimit?, htoken, htail], hd, hset⟩
      · refine .inr ⟨v, d, ?_, hd, ho⟩
        rw [lastLimit?] at hv ⊢
        rw [List.filterMap_cons]
        split
        · exact hv
        · rw [List.getLast?_cons, hv]
          rfl

lemma parseLimit_of_lastLimit? {tokens : List Text} {o : Options}
    (h : none.setTokens tokens = .ok o) {v : Text} (hv : lastLimit? tokens = some v)
    {d : Duration} (hd : o.timeout = some d) : Duration.parseLimit v = .ok d := by
  rcases setTokens_timeout h with ⟨hnone, -⟩ | ⟨v', d', hv', hd', ho⟩
  · rw [hv] at hnone
    cases hnone
  · obtain rfl := Option.some.inj (hv.symm.trans hv')
    obtain rfl := Option.some.inj (hd.symm.trans ho)
    exact hd'

section
variable {v : Text} {d : Duration}

lemma limitValue?_limitFlag : limitValue? (limitFlag v) = some v := stripPrefix?_append _ v

lemma lastLimit?_limitFlag : lastLimit? [limitFlag v] = some v := by
  rw [lastLimit?, List.filterMap_cons_some limitValue?_limitFlag]
  rfl

lemma setTokens_limitFlag (h : Duration.parseLimit v = .ok d) :
    none.setTokens [limitFlag v] = .ok (ofLimit d) := by
  have hvalue : stripPrefix? "+timeout=".toList (limitFlag v) = some v := limitValue?_limitFlag
  have hflag : Flag.ofToken? (limitFlag v) = some (.timeout d) := by
    unfold Flag.ofToken?
    split
    · rename_i w hw
      obtain rfl := Option.some.inj (hvalue.symm.trans hw)
      rw [h]
    · rename_i hnone
      rw [hvalue] at hnone
      cases hnone
  rw [setTokens, hflag]
  rfl

/-- A literal has no blanks to cut the flag and no closer to be dropped from its end. -/
lemma words_limitFlag (h : Duration.parseLimit v = .ok d) :
    words (dropTrailers (limitFlag v)) = [limitFlag v] := by
  obtain ⟨x, hparse, -⟩ := Duration.parseLimit_eq_ok.1 h
  have hname : ∀ c ∈ "+timeout=".toList, isBlank c = false ∧ c ≠ '/' ∧ c ≠ '>' := by
    simp [isBlank]
  have hplain : ∀ c ∈ limitFlag v, isBlank c = false ∧ c ≠ '/' ∧ c ≠ '>' :=
    List.forall_mem_append.2 ⟨hname, fun c hc => plain_of_isNumeral (parse_numeral hparse c hc)⟩
  have hne : limitFlag v ≠ [] := List.append_ne_nil_of_left_ne_nil (by simp) v
  have hends : ∀ closer ∈ trailers, '/' ∈ closer ∨ '>' ∈ closer := by decide
  have hopen : ∀ closer ∈ trailers, ¬ closer <:+ trimEnd (limitFlag v) := by
    intro closer hcloser hsuffix
    have hmem : ∀ c ∈ closer, c ∈ limitFlag v := fun c hc =>
      (trimEnd_isPrefix _).subset (hsuffix.subset hc)
    rcases hends closer hcloser with hc | hc
    · exact (hplain _ (hmem _ hc)).2.1 rfl
    · exact (hplain _ (hmem _ hc)).2.2 rfl
  rw [dropTrailers_of_open hopen, words_trimEnd]
  exact words_of_isWord ⟨hne, fun c hc => (hplain c hc).1⟩

lemma lineTokens_limitFlag (h : Duration.parseLimit v = .ok d) :
    lineTokens (tag ++ limitFlag v) = [limitFlag v] := by
  rw [lineTokens, breakOn_eq_some.2 (firstOccurrence_append rfl)]
  exact words_limitFlag h

end

end Exemplar.Options

namespace Exemplar.CommandLine
open Text Number

/-- Where a time limit may be given. -/
inductive Place
  | exampleFlag
  | runFlag
  | argument
  | environment
  deriving DecidableEq, Repr

namespace Place

/-- Blanks around an argument or the value of a variable are ignored. A flag has none. -/
def literal : Place → Text → Text
  | exampleFlag, v => v
  | runFlag, v => v
  | argument, v => trim v
  | environment, v => trim v

/-- The text decides on the time limit in this place, and it is accepted as this limit. -/
inductive Accepts (v : Text) (d : Duration) : Place → Prop
  | exampleFlag {statements : List Text} {o : Options} (h : Options.ofStatements statements = .ok o)
      (hv : Options.lastLimit? (statements.flatMap Options.lineTokens) = some v)
      (hd : o.timeout = some d) : Accepts v d .exampleFlag
  | runFlag {arguments : List Text} {found : Found} {env : Config.Environment} {c : Config}
      {flags : Text} (hread : read forms arguments = .ok found)
      (h : Config.ofFound found env = .ok c) (hf : found.last? .options = some flags)
      (hv : Options.lastLimit? (words (Options.dropTrailers flags)) = some v)
      (hd : c.options.timeout = some d) : Accepts v d .runFlag
  | argument {arguments : List Text} {found : Found} {env : Config.Environment} {c : Config}
      (hread : read forms arguments = .ok found) (h : Config.ofFound found env = .ok c)
      (hv : found.last? .timeout = some v) (hd : c.timeout = d) : Accepts v d .argument
  | environment {arguments : List Text} {found : Found} {env : Config.Environment} {c : Config}
      (hread : read forms arguments = .ok found) (h : Config.ofFound found env = .ok c)
      (hn : found.last? .timeout = none) (hv : Config.lookup? env timeoutVariable = some v)
      (hd : c.timeout = d) : Accepts v d .environment

variable {place : Place} {v : Text} {d : Duration}

lemma Accepts.parseLimit (h : place.Accepts v d) :
    Duration.parseLimit (place.literal v) = .ok d := by
  cases h with
  | exampleFlag h hv hd =>
    rw [Options.ofStatements, Options.setStatements_eq] at h
    exact Options.parseLimit_of_lastLimit? h hv hd
  | runFlag _ h hf hv hd =>
    have hoptions := (Config.readFrom_of_ofFound h).options
    rw [Config.optionsOf, hf] at hoptions
    exact Options.parseLimit_of_lastLimit? (mapError_eq_ok.1 hoptions) hv hd
  | argument _ h hv hd =>
    have hlimit := (Config.readFrom_of_ofFound h).timeout
    rw [Config.timeoutOf, hv, hd] at hlimit
    exact parseTimeout_eq_ok.1 hlimit
  | environment _ h hn hv hd =>
    have hlimit := (Config.readFrom_of_ofFound h).timeout
    rw [Config.timeoutOf, hn, hv, hd] at hlimit
    exact parseTimeout_eq_ok.1 hlimit

/-- A literal of a time limit can be given in every place. -/
lemma accepts_of_parseLimit (h : Duration.parseLimit (place.literal v) = .ok d) :
    place.Accepts v d := by
  cases place with
  | exampleFlag =>
    replace h : Duration.parseLimit v = .ok d := h
    have htokens : [Options.tag ++ Options.limitFlag v].flatMap Options.lineTokens =
        [Options.limitFlag v] := by
      rw [List.flatMap_singleton, Options.lineTokens_limitFlag h]
    have hset : Options.ofStatements [Options.tag ++ Options.limitFlag v] = .ok (.ofLimit d) := by
      rw [Options.ofStatements, Options.setStatements_eq, htokens]
      exact Options.setTokens_limitFlag h
    have hlast := htokens ▸ Options.lastLimit?_limitFlag
    exact .exampleFlag hset hlast rfl
  | runFlag =>
    replace h : Duration.parseLimit v = .ok d := h
    have hread (flags : Text) : read forms ["--options=".toList ++ flags, ['x']] =
        .ok [(.options, [flags]), (.files, [['x']])] := by
      cbv
    let found : Found := [(.options, [Options.limitFlag v]), (.files, [['x']])]
    have hflags : found.last? .options = some (Options.limitFlag v) := rfl
    have hwords := Options.words_limitFlag h
    have hlimit : Config.timeoutOf found [] = .ok standardTimeout := rfl
    have hoptions : Config.optionsOf found = .ok (.ofLimit d) := by
      rw [Config.optionsOf, hflags]
      refine mapError_eq_ok.2 ?_
      rw [Options.ofFlags, Options.setFlags, hwords]
      exact Options.setTokens_limitFlag h
    obtain ⟨c, hc, -, hset⟩ := Config.exists_ofFound hlimit rfl hoptions rfl
    have hlast := hwords ▸ Options.lastLimit?_limitFlag
    exact .runFlag (hread _) hc hflags hlast (by rw [hset, Options.ofLimit])
  | argument =>
    have hread : read forms ["--timeout=".toList ++ v, ['x']] =
        .ok [(.timeout, [v]), (.files, [['x']])] := by
      cbv
    have hlimit : Config.timeoutOf [(.timeout, [v]), (.files, [['x']])] [] = .ok d :=
      parseTimeout_eq_ok.2 h
    obtain ⟨c, hc, htimeout, -⟩ := Config.exists_ofFound hlimit rfl rfl rfl
    exact .argument hread hc rfl htimeout
  | environment =>
    have hread : read forms [['x']] = .ok [(.files, [['x']])] := by cbv
    have hlimit : Config.timeoutOf [(.files, [['x']])] [(timeoutVariable, v)] = .ok d :=
      parseTimeout_eq_ok.2 h
    obtain ⟨c, hc, htimeout, -⟩ := Config.exists_ofFound hlimit rfl rfl rfl
    exact .environment hread hc rfl rfl htimeout

lemma accepts_iff_parseLimit :
    place.Accepts v d ↔ Duration.parseLimit (place.literal v) = .ok d :=
  ⟨Accepts.parseLimit, accepts_of_parseLimit⟩

end Place

/-- In every place the literals of positive numbers below `2 ^ 64` are accepted and nothing else is.
The limit is the nearest number of nanoseconds. So a limit is zero for half a nanosecond and for
what is less, and for no other number. -/
theorem accepts_iff_nearest (place : Place) (v : Text) :
    (∀ d, place.Accepts v d ↔
      ∃ x, Decimal.parse (place.literal v) = .ok (.finite false x) ∧
        0 < x.value ∧ x.value < 2 ^ 64 ∧ IsNearest (x.value * 10 ^ 9) d.nanoseconds) ∧
      (place.Accepts v ⟨0⟩ ↔
        ∃ x, Decimal.parse (place.literal v) = .ok (.finite false x) ∧
          0 < x.value ∧ x.value ≤ 1 / (2 * 10 ^ 9)) := by
  have hlimits : ∀ d, place.Accepts v d ↔
      ∃ x, Decimal.parse (place.literal v) = .ok (.finite false x) ∧
        0 < x.value ∧ x.value < 2 ^ 64 ∧ IsNearest (x.value * 10 ^ 9) d.nanoseconds := fun d =>
    Place.accepts_iff_parseLimit.trans Duration.parseLimit_eq_ok
  refine ⟨hlimits, (hlimits ⟨0⟩).trans (exists_congr fun x => and_congr_right fun _ =>
    and_congr_right fun hpos => ?_)⟩
  rw [isNearest_zero_iff (by positivity)]
  constructor
  · rintro ⟨-, h⟩
    rw [le_div_iff₀ (by positivity)]
    linarith
  · intro h
    rw [le_div_iff₀ (by positivity)] at h
    constructor <;> linarith

/-- A tenth of a nanosecond is a positive number, and every place makes a limit of zero of it. -/
theorem zero_limit_accepted :
    (∀ place : Place, place.Accepts "1e-10".toList ⟨0⟩) ∧
      ¬ ∀ (place : Place) (v : Text) (d : Duration), place.Accepts v d → 0 < d.nanoseconds := by
  have hzero : ∀ place : Place, place.Accepts "1e-10".toList ⟨0⟩ := by
    intro place
    refine Place.accepts_iff_parseLimit.2 ?_
    cases place <;> decide +kernel
  exact ⟨hzero, fun hpos => Nat.lt_irrefl 0 (hpos _ _ _ (hzero .runFlag))⟩

end Exemplar.CommandLine
