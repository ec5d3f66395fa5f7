import Exemplar.Proofs.Execution.Step
import Exemplar.Proofs.Expected.Literal
import Exemplar.Proofs.Expected.Segments
import Exemplar.Session.Scripted

/-!
# Pasted output

Captured values are pasted into the expected lines before these are read as a pattern. So the
output has to be the pasted text as long as no tag is recognised in that text; but a value that
looks like a tag, or becomes part of one where it stands, is a wildcard.
-/
namespace Exemplar.Execution
open Session Expected Text

/-- How the output of an example is compared. -/
def Settings.comparisonOf (settings : Settings) (e : Example) : Comparison :=
  Comparison.ofOptions (settings.optionsOf e)

/-- The expected text of an example in normal form, with every tag replaced by its value. -/
def pastedText (comparison : Comparison) (clipboard : Captures) (e : Example) : Text :=
  normalize comparison.normWs (joinLines (e.expected.map (pasteKnown clipboard)))

/-- The names of the tags that are recognised in the pasted text. -/
def pastedNames (comparison : Comparison) (clipboard : Captures) (e : Example) : List Text :=
  (comparison.tagsOf (pastedText comparison clipboard e)).filterMap Tag.name?

lemma names_eq_filterMap (tokens : List Token) :
    Token.names tokens = (tokens.filterMap Token.tag?).filterMap Tag.name? := by
  unfold Token.names
  rw [List.filterMap_filterMap]
  refine List.filterMap_congr fun token _ => ?_
  cases token <;> rfl

section
variable {settings : Settings} {clipboard : Captures} {e : Example}
  (hpaste : (settings.optionsOf e).paste = true)
include hpaste

lemma expectedLines_pasted : expectedLines clipboard (settings.optionsOf e) e =
    e.expected.map (pasteKnown clipboard) := by
  unfold expectedLines
  rw [if_pos hpaste]

variable (hchecks : (settings.optionsOf e).checksOutput = true)
include hchecks

lemma not_nodup_of_expectedPattern {err : Pattern.RepeatedTag}
    (h : expectedPattern clipboard (settings.optionsOf e) e = .error (.repeatedTag err)) :
    ¬ (pastedNames (settings.comparisonOf e) clipboard e).Nodup := by
  rw [expectedPattern, if_pos hchecks, ← Settings.comparisonOf, expectedLines_pasted hpaste] at h
  split at h
  · cases h
  · rename_i err' herr
    rw [pastedNames, ← Comparison.filterMap_tokensOf, ← names_eq_filterMap]
    exact Pattern.not_nodup_of_ofNormal herr

/-- Without tags in the pasted text the pattern accepts that text only. -/
lemma exists_of_expectedPattern {pattern : Option Pattern}
    (hplain : (settings.comparisonOf e).tagsOf
      (pastedText (settings.comparisonOf e) clipboard e) = [])
    (h : expectedPattern clipboard (settings.optionsOf e) e = .ok pattern) :
    ∃ p, pattern = some p ∧ ∀ output, (p.matchOutput output).passed = true ↔
      normalize (settings.comparisonOf e).normWs output =
        pastedText (settings.comparisonOf e) clipboard e := by
  obtain ⟨p, hp, hpassed⟩ := Pattern.parse_of_tagsOf hplain
  rw [expectedPattern, if_pos hchecks, ← Settings.comparisonOf, expectedLines_pasted hpaste,
    hp] at h
  exact ⟨p, (Except.ok.inj h).symm, hpassed⟩

end

variable {σ : Type} {is : Interpreters σ} {settings : Settings} {m : Memory σ} {e : Example}

/-- Trouble with a tag comes from a name that the pasted text has twice. -/
lemma Turn.not_nodup {s : Step σ} (h : Turn is settings m e s)
    (hpaste : (settings.optionsOf e).paste = true)
    (hchecks : (settings.optionsOf e).checksOutput = true) {o : Outcome}
    {err : Pattern.RepeatedTag} (ho : s.outcome = some o)
    (ht : o.trouble = some (.repeatedTag err)) :
    ¬ (pastedNames (settings.comparisonOf e) m.clipboard e).Nodup := by
  cases h with
  | skipped | broken | refused =>
    obtain rfl := Option.some.inj ho
    cases ht
  | lost => cases ho
  | unready _ _ hp =>
    obtain rfl := Option.some.inj ho
    obtain rfl := Option.some.inj ht
    rcases prepare_eq_error hp with ⟨name, hname⟩ | hpattern
    · cases hname
    · exact not_nodup_of_expectedPattern hpaste hchecks hpattern
  | @sent p _ _ _ _ _ _ _ _ _ hp _ _ ha =>
    obtain rfl := Option.some.inj ho
    cases ha with
    | failed | timedOut | crashed => cases ht
    | ok output =>
      cases hpattern : p.pattern <;> simp [judge, hpattern, Outcome.accepted, Outcome.compared] at ht

/-- A run is all that is exchanged with a session that is there or has just been opened. -/
lemma Provides.ran_eq {language : String} {session : σ} {opening : List Exchange}
    (h : Provides is m language session opening) {ss ss' : List Text} {limit limit' : Duration}
    {reply reply' : Reply}
    (hx : .ran ss limit reply ∈ opening ++ [Exchange.ran ss' limit' reply']) :
    reply = reply' := by
  have hlast : Exchange.ran ss limit reply = .ran ss' limit' reply' := by
    cases h <;> simpa using hx
  cases hlast
  rfl

lemma state_compared (e : Example) (output : Text) (p : Pattern) :
    (Outcome.compared e output p).state =
      if (p.matchOutput output).passed then .passed else .failed := by
  show State.conclude _ = _
  split <;> rfl

/-- A complete output is compared with the pasted text when no tag is recognised in it. -/
lemma Turn.passed_iff {s : Step σ} (h : Turn is settings m e s)
    (hpaste : (settings.optionsOf e).paste = true)
    (hchecks : (settings.optionsOf e).checksOutput = true)
    (hplain : (settings.comparisonOf e).tagsOf
      (pastedText (settings.comparisonOf e) m.clipboard e) = [])
    {statements : List Text} {limit : Duration} {output : Text}
    (hran : .ran statements limit (.response ⟨output, .ok⟩) ∈ s.exchanges) :
    ∃ o, s.outcome = some o ∧ (o.state = .passed ∨ o.state = .failed) ∧
      (o.state = .passed ↔ normalize (settings.comparisonOf e).normWs output =
        pastedText (settings.comparisonOf e) m.clipboard e) := by
  cases h with
  | skipped | broken | unready => cases hran
  | refused => simp at hran
  | lost _ _ _ hs => cases hs.ran_eq hran
  | @sent p _ _ _ _ _ _ _ _ _ hp hs _ ha =>
    obtain rfl := hs.ran_eq hran
    cases ha with
    | ok =>
      obtain ⟨pattern, hpattern, hpassed⟩ :=
        exists_of_expectedPattern hpaste hchecks hplain (prepare_eq_ok hp)
      have hjudge : (judge m.clipboard e p.pattern output).1 = .compared e output pattern := by
        rw [hpattern]
        rfl
      refine ⟨_, rfl, ?_⟩
      rw [hjudge, ← hpassed output, state_compared]
      by_cases hmatch : (pattern.matchOutput output).passed = true
      · simp [hmatch]
      · simp [hmatch]

/-- An example that pastes is errored for a tag only if a name is recognised twice in the pasted
text, with the values in it. When no tag is recognised there, a complete output is compared with
that text and nothing else: the example passes if both are the same in normal form, and fails
otherwise. -/
theorem step_pasted (is : Interpreters σ) (settings : Settings) (m : Memory σ) (e : Example)
    (hpaste : (settings.optionsOf e).paste = true)
    (hchecks : (settings.optionsOf e).checksOutput = true) :
    (∀ o err, (step is settings m e).outcome = some o → o.trouble = some (.repeatedTag err) →
      ¬ (pastedNames (settings.comparisonOf e) m.clipboard e).Nodup) ∧
    ((settings.comparisonOf e).tagsOf (pastedText (settings.comparisonOf e) m.clipboard e) = [] →
      ∀ statements limit output,
        .ran statements limit (.response ⟨output, .ok⟩) ∈ (step is settings m e).exchanges →
        ∃ o, (step is settings m e).outcome = some o ∧
          (o.state = .passed ∨ o.state = .failed) ∧
          (o.state = .passed ↔ normalize (settings.comparisonOf e).normWs output =
            pastedText (settings.comparisonOf e) m.clipboard e)) := by
  have hturn := step_turn is settings m e
  refine ⟨fun o err ho ht => hturn.not_nodup hpaste hchecks ho ht, ?_⟩
  intro hplain statements limit output hran
  exact hturn.passed_iff hpaste hchecks hplain hran

/-- The value that the first example has captured is what the second one expects. -/
theorem step_pasted_captured :
    ∃ (is : Interpreters Scripted) (settings : Settings) (e₁ e₂ : Example) (m : Memory Scripted),
      (step is settings .fresh e₁).memory = m ∧
      m.clipboard = [("file".toList, "a.txt".toList)] ∧ e₂.expected = ["<file>".toList] ∧
      (settings.optionsOf e₂).paste = true ∧ (settings.optionsOf e₂).checksOutput = true ∧
      (settings.comparisonOf e₂).tagsOf
        (pastedText (settings.comparisonOf e₂) m.clipboard e₂) = [] ∧
      .ran ["ls".toList] ⟨5⟩ (.response ⟨"a.txt \n".toList, .ok⟩) ∈
        (step is settings m e₂).exchanges ∧
      ∃ o, (step is settings m e₂).outcome = some o ∧ o.state = .passed := by
  let is := Scripted.interpreters [("shell", ⟨.opens,
    [("new".toList, [.response ⟨"made a.txt".toList, .ok⟩]),
      ("ls".toList, [.response ⟨"a.txt \n".toList, .ok⟩])]⟩)]
  let settings : Settings := ⟨⟨5⟩, false, { Options.none with paste := true }⟩
  let e₁ : Example := ⟨"shell", ["new".toList], ["made <file>".toList], 1, [], Options.none⟩
  let e₂ : Example := ⟨"shell", ["ls".toList], ["<file>".toList], 3, [], Options.none⟩
  let m := (step is settings .fresh e₁).memory
  have hclipboard : m.clipboard = [("file".toList, "a.txt".toList)] := by decide +kernel
  have hplain : (settings.comparisonOf e₂).tagsOf
      (pastedText (settings.comparisonOf e₂) m.clipboard e₂) = [] := by decide +kernel
  have hran : .ran ["ls".toList] ⟨5⟩ (.response ⟨"a.txt \n".toList, .ok⟩) ∈
      (step is settings m e₂).exchanges := by decide +kernel
  have hsame : normalize (settings.comparisonOf e₂).normWs "a.txt \n".toList =
      pastedText (settings.comparisonOf e₂) m.clipboard e₂ := by decide +kernel
  obtain ⟨o, ho, -, hpassed⟩ :=
    (step_pasted is settings m e₂ rfl rfl).2 hplain ["ls".toList] ⟨5⟩ "a.txt \n".toList hran
  exact ⟨is, settings, e₁, e₂, m, rfl, hclipboard, rfl, rfl, rfl, hplain, hran, o, ho,
    hpassed.2 hsame⟩

/-- A captured value that looks like a tag lets any output pass. -/
theorem pasted_value_read_as_tag :
    ∃ (is : Interpreters Scripted) (settings : Settings) (e₁ e₂ : Example) (m : Memory Scripted)
      (o : Outcome),
      (step is settings .fresh e₁).memory = m ∧ m.clipboard = [("v".toList, "<x>".toList)] ∧
      e₂.expected = ["<v>".toList] ∧ (settings.optionsOf e₂).paste = true ∧
      (settings.optionsOf e₂).checksOutput = true ∧
      .ran ["second".toList] ⟨5⟩ (.response ⟨"second\n".toList, .ok⟩) ∈
        (step is settings m e₂).exchanges ∧
      (step is settings m e₂).outcome = some o ∧ o.state = .passed ∧
      normalize (settings.comparisonOf e₂).normWs "second\n".toList ≠
        pastedText (settings.comparisonOf e₂) m.clipboard e₂ := by
  let is := Scripted.interpreters [("shell", ⟨.opens,
    [("first".toList, [.response ⟨"<x>".toList, .ok⟩])]⟩)]
  let settings : Settings := ⟨⟨5⟩, false, Options.none⟩
  let e₁ : Example := ⟨"shell", ["first".toList], ["<v>".toList], 1, [], Options.none⟩
  let e₂ : Example :=
    ⟨"shell", ["second".toList], ["<v>".toList], 3, [], { Options.none with paste := true }⟩
  let m := (step is settings .fresh e₁).memory
  have hran : .ran ["second".toList] ⟨5⟩ (.response ⟨"second\n".toList, .ok⟩) ∈
      (step is settings m e₂).exchanges := by decide +kernel
  have hstate : (step is settings m e₂).outcome.map Outcome.state = some .passed := by
    decide +kernel
  obtain ⟨o, ho, hpassed⟩ := Option.map_eq_some_iff.1 hstate
  exact ⟨is, settings, e₁, e₂, m, o, rfl, by decide +kernel, rfl, rfl, rfl, hran, ho, hpassed,
    by decide +kernel⟩

end Exemplar.Execution
