import Exemplar.Proofs.Execution.Account
import Exemplar.Proofs.Execution.Pasting
import Exemplar.Proofs.Expected.Matching
import Exemplar.Proofs.Expected.Substitution
import Mathlib.Data.List.Flatten

/-!
# What is pasted

The clipboard of a run holds under each name what the latest passed example has captured under it.
An outcome tells what an example has captured, so the clipboard can be read off the outcomes of a
language; a failed match may have captures too, but these count for nothing. Names are written in
tags, so nothing is ever captured under the three dots, and these are left alone when values are
pasted.
-/
namespace Exemplar.Execution
open Session Expected Text

/-- The names in the statements of an example, in order. -/
def statementNames (e : Example) : List Text :=
  e.statements.flatMap namesIn

/-- The first name in the statements of an example that has no value. -/
def firstMissing? (value : Text → Option Text) (e : Example) : Option Text :=
  (statementNames e).find? fun name => (value name).isNone

/-- The text that the output of an example is compared with, values included, in normal form. -/
def comparedText (settings : Settings) (value : Text → Option Text) (e : Example) : Text :=
  normalize (settings.comparisonOf e).normWs (joinLines (e.expected.map (substitute value)))

/-- A tag is recognised twice in the text that the output is compared with. -/
def RepeatsTag (settings : Settings) (value : Text → Option Text) (e : Example) : Prop :=
  (settings.optionsOf e).checksOutput = true ∧
    ¬ (Token.names ((settings.comparisonOf e).tokensOf (comparedText settings value e))).Nodup

instance (settings : Settings) (value : Text → Option Text) (e : Example) :
    Decidable (RepeatsTag settings value e) :=
  inferInstanceAs (Decidable (_ ∧ ¬ _))

/-- A tag without a value is written twice in the expected lines, and stands for itself there. -/
structure WritesTagTwice (settings : Settings) (value : Text → Option Text) (e : Example) :
    Prop where
  checks : (settings.optionsOf e).checksOutput = true
  tags : (settings.comparisonOf e).tags = true
  twice : ¬ ((e.expected.flatMap namesIn).filter fun name => (value name).isNone).Nodup

/-- Whatever the values are, they do not hide a tag that has none. -/
theorem WritesTagTwice.repeatsTag {settings : Settings} {value : Text → Option Text} {e : Example}
    (h : WritesTagTwice settings value e) : RepeatsTag settings value e := by
  refine ⟨h.checks, fun hdistinct => h.twice (hdistinct.sublist ?_)⟩
  have hcompared : Token.names
      ((settings.comparisonOf e).tokensOf (comparedText settings value e)) =
      e.expected.flatMap fun l => namesIn (substitute value l) := by
    rw [Comparison.tokensOf_of_tags h.tags, ← namesIn, comparedText, namesIn_normalize,
      namesIn_joinLines, List.flatMap_map]
  rw [hcompared, List.filter_flatMap]
  exact List.Sublist.flatMap_right _ fun l _ => namesIn_substitute value l

section
variable {clipboard : Captures} {value : Text → Option Text}
  (hvalue : ∀ name, clipboard.get? name = value name) (hdots : clipboard.get? Tag.dots = none)
include hvalue hdots

/-- Pasting into several lines stops at the first name of all that has no value. -/
lemma pasteAll_eq (ls : List Text) :
    pasteAll clipboard ls =
      match (ls.flatMap namesIn).find? fun name => (value name).isNone with
      | some name => .error name
      | none => .ok (ls.map (substitute value)) := by
  induction ls with
  | nil => rfl
  | cons l ls ih =>
    rw [pasteAll, paste, missing?, ← namesIn, ih, List.flatMap_cons, List.find?_append]
    simp only [hvalue]
    cases (namesIn l).find? fun name => (value name).isNone with
    | some name => rfl
    | none =>
      rw [Option.none_or, pasteKnown_eq_substitute hvalue hdots]
      cases (ls.flatMap namesIn).find? fun name => (value name).isNone <;> rfl

variable {settings : Settings} {e : Example} (hpaste : (settings.optionsOf e).paste = true)
include hpaste

lemma pasteStatements_eq :
    pasteStatements clipboard (settings.optionsOf e) e =
      match firstMissing? value e with
      | some name => .error (.nothingCaptured name)
      | none => .ok (e.statements.map (substitute value)) := by
  rw [pasteStatements, if_pos hpaste, pasteAll_eq hvalue hdots]
  unfold firstMissing? statementNames
  split <;> rfl

/-- There is a pattern unless the pasted text has a tag twice. -/
lemma expectedPattern_cases :
    (RepeatsTag settings value e ∧ ∃ err,
      expectedPattern clipboard (settings.optionsOf e) e = .error (.repeatedTag err)) ∨
    (¬ RepeatsTag settings value e ∧ ∃ pattern,
      expectedPattern clipboard (settings.optionsOf e) e = .ok pattern) := by
  have hlines : expectedLines clipboard (settings.optionsOf e) e =
      e.expected.map (substitute value) := by
    rw [expectedLines_pasted hpaste]
    exact List.map_congr_left fun t _ => pasteKnown_eq_substitute hvalue hdots t
  rw [expectedPattern, hlines, ← Settings.comparisonOf]
  by_cases hchecks : (settings.optionsOf e).checksOutput = true
  · rw [if_pos hchecks]
    cases hparse : Pattern.parse (settings.comparisonOf e) (e.expected.map (substitute value)) with
    | ok p => exact .inr ⟨fun hrepeats => hrepeats.2 (Pattern.ofNormal_eq_ok.1 hparse).1, _, rfl⟩
    | error err => exact .inl ⟨⟨hchecks, Pattern.not_nodup_of_ofNormal hparse⟩, err, rfl⟩
  · rw [if_neg hchecks]
    exact .inr ⟨fun hrepeats => hchecks hrepeats.1, none, rfl⟩

lemma prepare_of_missing {name : Text} (h : firstMissing? value e = some name) :
    prepare clipboard (settings.optionsOf e) e = .error (.nothingCaptured name) := by
  rw [prepare, pasteStatements_eq hvalue hdots hpaste, h]

lemma prepare_of_repeats (h : firstMissing? value e = none)
    (hrepeats : RepeatsTag settings value e) :
    ∃ err, prepare clipboard (settings.optionsOf e) e = .error (.repeatedTag err) := by
  rw [prepare, pasteStatements_eq hvalue hdots hpaste, h]
  rcases expectedPattern_cases hvalue hdots hpaste with ⟨-, err, herr⟩ | ⟨hnot, -⟩
  · exact ⟨err, by rw [herr]⟩
  · exact absurd hrepeats hnot

lemma prepare_of_ready (h : firstMissing? value e = none)
    (hrepeats : ¬ RepeatsTag settings value e) :
    ∃ pattern, prepare clipboard (settings.optionsOf e) e =
      .ok ⟨e.statements.map (substitute value), pattern⟩ := by
  rw [prepare, pasteStatements_eq hvalue hdots hpaste, h]
  rcases expectedPattern_cases hvalue hdots hpaste with ⟨hdoes, -⟩ | ⟨-, pattern, hpattern⟩
  · exact absurd hdoes hrepeats
  · exact ⟨pattern, by rw [hpattern]⟩

end

namespace Outcome

/-- What an example has captured under a name: a failed match captures nothing. -/
def value? (o : Outcome) (name : Text) : Option Text :=
  if o.state = .passed then o.result.bind fun r => r.captures.get? name else none

end Outcome

/-- The value that the latest example of a language has captured under a name. -/
def capturedIn (language : String) (outcomes : List Outcome) (name : Text) : Option Text :=
  ((outcomes.filter fun o => o.subject.language == language).filterMap fun o =>
    o.value? name).getLast?

/-- Newer captures hide older ones. -/
lemma get?_extend (newer older : Captures) (name : Text) :
    (newer.extend older).get? name = (newer.get? name).or (older.get? name) := by
  rw [Captures.extend, Captures.get?, List.find?_append]
  cases h : newer.find? fun entry => entry.1 == name <;> simp [Captures.get?, h]

/-- What a match captures has names that are written in tags. -/
lemma proper_of_mem_captures {comparison : Comparison} {expected : List Text} {p : Pattern}
    (hp : Pattern.parse comparison expected = .ok p) {output : Text}
    (hpassed : (p.matchOutput output).passed = true) {entry : Text × Text}
    (hentry : entry ∈ (p.matchOutput output).captures) : (Tag.named entry.1).Proper := by
  have ha := (Pattern.parse_parsed hp).alternating
  obtain ⟨ws, hleftmost⟩ :=
    Scan.leftmost_of_run (s := Scan.start) ha (Pattern.matchOutput_passed.1 hpassed)
  have hcaptures : (p.matchOutput output).captures = Segment.bindings p.segments ws :=
    congrArg Scan.captures (Scan.run_of_leftmost (s := Scan.start) ha hleftmost)
  refine Pattern.proper_of_mem_names hp ?_
  rw [← Segment.bindings_names hleftmost.spells, ← hcaptures]
  exact List.mem_map_of_mem hentry

/-- All names of the clipboard are written in tags. -/
def Named (clipboard : Captures) : Prop := ∀ entry ∈ clipboard, (Tag.named entry.1).Proper

lemma Named.get?_dots {clipboard : Captures} (h : Named clipboard) :
    clipboard.get? Tag.dots = none := by
  rw [Captures.get?, Option.map_eq_none_iff, List.find?_eq_none]
  intro entry hentry hdots
  have hproper := h entry hentry
  rw [beq_iff_eq.1 hdots] at hproper
  exact absurd hproper.1 (by decide)

variable {σ : Type} {is : Interpreters σ} {settings : Settings}

/-- A complete output that passes adds its captures, and any other leaves the clipboard. -/
lemma judge_clipboard (clipboard : Captures) (e : Example) (pattern : Option Pattern)
    (output name : Text) :
    (judge clipboard e pattern output).2.get? name =
      ((judge clipboard e pattern output).1.value? name).or (clipboard.get? name) := by
  cases pattern with
  | none => simp [judge, Outcome.value?, Outcome.accepted]
  | some p =>
    cases hp : (p.matchOutput output).passed <;>
      simp [judge, Outcome.value?, Outcome.compared, hp, get?_extend]

/-- A step carries on what its example has captured, over what there was before. -/
lemma Turn.clipboard_get? {m next : Memory σ} {e : Example} {o : Outcome}
    {exchanges : List Exchange} (h : Turn is settings m e ⟨some o, exchanges, next⟩)
    (name : Text) :
    next.clipboard.get? name = (o.value? name).or (m.clipboard.get? name) := by
  cases h with
  | skipped | broken | unready | refused => simp [Outcome.value?, Outcome.skipped, Outcome.errored]
  | @sent p _ _ _ _ _ _ _ _ _ _ _ _ ha =>
    cases ha with
    | failed | timedOut | crashed => simp [Outcome.value?, Outcome.errored]
    | ok output => exact judge_clipboard m.clipboard e p.pattern output name

lemma parse_of_expectedPattern {clipboard : Captures} {o : Options} {e : Example} {p : Pattern}
    (h : expectedPattern clipboard o e = .ok (some p)) :
    Pattern.parse (Comparison.ofOptions o) (expectedLines clipboard o e) = .ok p := by
  rw [expectedPattern] at h
  split at h
  · split at h
    · rename_i hparse
      obtain rfl := Option.some.inj (Except.ok.inj h)
      exact hparse
    · cases h
  · cases h

lemma Turn.named {m next : Memory σ} {e : Example} {o : Outcome} {exchanges : List Exchange}
    (h : Turn is settings m e ⟨some o, exchanges, next⟩) (hm : Named m.clipboard) :
    Named next.clipboard := by
  cases h with
  | skipped | broken | unready | refused => exact hm
  | @sent p _ _ _ _ _ _ _ _ _ hp _ _ ha =>
    cases ha with
    | failed | timedOut | crashed => exact hm
    | ok output =>
      cases hpattern : p.pattern with
      | none => exact hm
      | some pattern =>
        have hparse := parse_of_expectedPattern (hpattern ▸ prepare_eq_ok hp)
        simp only [judge]
        split
        · rename_i hpassed
          exact List.forall_mem_append.2
            ⟨fun entry hentry => proper_of_mem_captures hparse hpassed hentry, hm⟩
        · exact hm

namespace Ledger
variable {m m' : Memory σ} {stopped : Bool} {examples : List (Nat × Example)} {es : List Entry}

/-- The clipboard at the end of a run is told by its outcomes. -/
theorem clipboard_get? (h : Ledger is settings m stopped examples es m') (name : Text) :
    m'.clipboard.get? name =
      ((es.map Entry.outcome).filterMap fun o => o.value? name).getLast?.or
        (m.clipboard.get? name) := by
  induction h with
  | done => rfl
  | unreached _ ih => rw [ih, List.map_cons, List.filterMap_cons_none (by rfl)]
  | @step m m' i e rest es o exchanges next hs _ ih =>
    rw [ih, (turn_of_step hs).clipboard_get? name, List.map_cons, List.filterMap_cons]
    cases o.value? name with
    | none => rfl
    | some value =>
      -- the value counts unless there is a later one
      simp only [List.getLast?_cons]
      cases ((es.map Entry.outcome).filterMap fun o => o.value? name).getLast? <;> rfl

lemma named (h : Ledger is settings m stopped examples es m') (hm : Named m.clipboard) :
    Named m'.clipboard := by
  induction h with
  | done => exact hm
  | unreached _ ih => exact ih hm
  | step hs _ ih => exact ih ((turn_of_step hs).named hm)

end Ledger

/-- The example of an outcome has captured a value: it belongs to the language, its output was
compared, and it has passed. -/
structure Outcome.Contributes (settings : Settings) (language : String) (o : Outcome)
    (name value : Text) : Prop where
  language_eq : o.subject.language = language
  compared : (settings.optionsOf o.subject).skip = false ∧
    (settings.optionsOf o.subject).pass = false
  passed : o.state = .passed
  captured : ∃ r, o.result = some r ∧ r.captures.get? name = some value

/-- Whoever has captured a value has passed by a comparison. -/
lemma Outcome.contributes_iff {language : String} {o : Outcome} (hc : o.Consistent settings)
    {name value : Text} : o.Contributes settings language name value ↔
      o.subject.language = language ∧ o.value? name = some value := by
  constructor
  · rintro ⟨hlanguage, -, hpassed, r, hr, hget⟩
    exact ⟨hlanguage, by simp [value?, hpassed, hr, hget]⟩
  · rintro ⟨hlanguage, hvalue⟩
    rw [value?] at hvalue
    split at hvalue
    · rename_i hpassed
      obtain ⟨r, hr, hget⟩ := Option.bind_eq_some_iff.1 hvalue
      have hcompared := hc.result_iff.1 (by simp [hr])
      exact ⟨hlanguage, by simpa [hpassed] using hcompared, hpassed, r, hr, hget⟩
    · cases hvalue

/-- What is captured under a name is what the latest example has captured that has captured
anything under it. -/
theorem capturedIn_eq_some {language : String} {outcomes : List Outcome}
    (hc : ∀ o ∈ outcomes, o.Consistent settings) {name value : Text} :
    capturedIn language outcomes name = some value ↔
      ∃ earlier o later, outcomes = earlier ++ o :: later ∧
        o.Contributes settings language name value ∧
        ∀ o' ∈ later, ∀ value', ¬ o'.Contributes settings language name value' := by
  let own (o : Outcome) : Option Text :=
    if o.subject.language == language then o.value? name else none
  have hown : ∀ {o v}, o ∈ outcomes →
      (own o = some v ↔ o.Contributes settings language name v) := by
    intro o v ho
    rw [Outcome.contributes_iff (hc o ho)]
    simp [own]
  rw [capturedIn, List.filterMap_filter, List.getLast?_filterMap, List.findSome?_eq_some_iff]
  constructor
  · rintro ⟨later, o, earlier, hsplit, hvalue, hnone⟩
    have houtcomes : outcomes = earlier.reverse ++ o :: later.reverse := by
      simpa using congrArg List.reverse hsplit
    refine ⟨earlier.reverse, o, later.reverse, houtcomes, (hown (by simp [houtcomes])).1 hvalue, ?_⟩
    intro o' ho' value' hcontributes
    have hvalue' := (hown (by simp [houtcomes, List.mem_reverse.1 ho'])).2 hcontributes
    exact Option.some_ne_none _ (hvalue'.symm.trans (hnone o' (List.mem_reverse.1 ho')))
  · rintro ⟨earlier, o, later, rfl, hcontributes, hlater⟩
    refine ⟨later.reverse, o, earlier.reverse, by simp, (hown (by simp)).2 hcontributes, ?_⟩
    intro o' ho'
    have hmem := List.mem_reverse.1 ho'
    exact Option.eq_none_iff_forall_ne_some.2 fun value' hvalue' =>
      hlater o' hmem value' ((hown (by simp [hmem])).1 hvalue')

end Exemplar.Execution
