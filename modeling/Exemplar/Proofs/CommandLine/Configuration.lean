import Exemplar.CommandLine.Config
import Mathlib

/-!
# What a configuration is read from

The time limit and the number of jobs come from an argument, or from a variable of the environment
where there is none. The options and the command lines of interpreters come from arguments only.
Each of these is read by itself: a configuration holds what was read, and there is one as soon as
all of them can be read.
-/
namespace Exemplar.CommandLine
open Text Number

lemma exists_of_bind_eq_ok {ε α β : Type} {x : Except ε α} {f : α → Except ε β} {b : β}
    (h : x >>= f = .ok b) : ∃ a, x = .ok a ∧ f a = .ok b := by
  cases x with
  | error e => cases h
  | ok a => exact ⟨a, rfl, h⟩

lemma mapError_eq_ok {ε ε' α : Type} {f : ε → ε'} {x : Except ε α} {a : α} :
    x.mapError f = .ok a ↔ x = .ok a := by
  cases x <;> simp [Except.mapError]

lemma parseTimeout_eq_ok {v : Text} {d : Duration} :
    parseTimeout v = .ok d ↔ Duration.parseLimit (trim v) = .ok d := mapError_eq_ok

namespace Config
variable {c : Config} {found : Found} {env : Environment}

def timeoutOf (found : Found) (env : Environment) : Except ConfigError Duration :=
  match found.last? .timeout <|> lookup? env timeoutVariable with
  | some v => parseTimeout v
  | none => .ok standardTimeout

def jobsOf (found : Found) (env : Environment) : Except ConfigError Nat :=
  match found.last? .jobs <|> lookup? env jobsVariable with
  | some v => parseJobs v
  | none => .ok 1

def optionsOf (found : Found) : Except ConfigError Options :=
  match found.last? .options with
  | some flags => (Options.ofFlags flags).mapError ConfigError.options
  | none => .ok Options.none

/-- What may be wrong with arguments and variables, and is right. -/
structure ReadFrom (c : Config) (found : Found) (env : Environment) : Prop where
  timeout : timeoutOf found env = .ok c.timeout
  jobs : jobsOf found env = .ok c.jobs
  options : optionsOf found = .ok c.options
  shebangs : parseShebangs (found.values .shebang) = .ok c.shebangs

/-- A configuration holds what was read. -/
theorem readFrom_of_ofFound (h : ofFound found env = .ok c) : c.ReadFrom found env := by
  rw [ofFound] at h
  -- the time limit, the jobs and the options are each given or not
  split at h
  all_goals
    rename_i hlimit
    obtain ⟨timeout, htimeout, h⟩ := exists_of_bind_eq_ok h
    dsimp only at h
    split at h
  all_goals
    rename_i hcount
    obtain ⟨jobs, hjobs, h⟩ := exists_of_bind_eq_ok h
    split at h
  all_goals
    rename_i hflags
    obtain ⟨options, hoptions, h⟩ := exists_of_bind_eq_ok h
    obtain ⟨shebangs, hshebangs, h⟩ := exists_of_bind_eq_ok h
    obtain rfl := Except.ok.inj h
    constructor
    · rwa [timeoutOf, hlimit]
    · rwa [jobsOf, hcount]
    · rwa [optionsOf, hflags]
    · exact hshebangs

/-- There is a configuration as soon as everything can be read. -/
theorem exists_ofFound {timeout : Duration} {jobs : Nat} {options : Options}
    {shebangs : List (String × Text)} (htimeout : timeoutOf found env = .ok timeout)
    (hjobs : jobsOf found env = .ok jobs) (hoptions : optionsOf found = .ok options)
    (hshebangs : parseShebangs (found.values .shebang) = .ok shebangs) :
    ∃ c, ofFound found env = .ok c ∧ c.timeout = timeout ∧ c.options = options := by
  have hsome : ∃ c, ofFound found env = .ok c := by
    have ht := htimeout
    have hj := hjobs
    have ho := hoptions
    unfold timeoutOf at ht
    unfold jobsOf at hj
    unfold optionsOf at ho
    rw [ofFound, hshebangs]
    split at ht <;> split at hj <;> split at ho
    all_goals
      simp only [*, bind, Except.bind]
      exact ⟨_, rfl⟩
  obtain ⟨c, hc⟩ := hsome
  have hread := readFrom_of_ofFound hc
  exact ⟨c, hc, Except.ok.inj (hread.timeout.symm.trans htimeout),
    Except.ok.inj (hread.options.symm.trans hoptions)⟩

end Config

end Exemplar.CommandLine
