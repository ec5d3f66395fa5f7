import Exemplar.Proofs.Session.Framing
import Exemplar.Proofs.Session.Prompts

/-!
# Tokens in an output

The token of a run is cut off an output that is complete. An output that is not complete is shown
as it came, so it has the token if one of the streams brought all of the token before the other one
closed or the time was up. Joining the streams and cutting prompts off their lines makes no token,
because a token stands on one line.
-/
namespace Exemplar.Session
open Text

section
variable {needle : Text} (hn : '\n' ∉ needle)
include hn

/-- A text on one line stands on one side of a break. -/
lemma isInfix_append_newline {s w : Text} :
    needle <:+: s ++ '\n' :: w ↔ needle <:+: s ∨ needle <:+: w := by
  constructor
  · rintro ⟨u, v, h⟩
    by_cases hu : u.length ≤ s.length
    · exact .inl (isInfix_of_append_newline hn h.symm hu)
    · rw [List.append_assoc] at h
      obtain ⟨c, rfl⟩ : s ++ ['\n'] <+: u :=
        List.prefix_of_prefix_length_le ⟨w, by simp⟩ ⟨_, h⟩ (by simp; omega)
      simp only [List.append_assoc, List.append_cancel_left_eq, List.cons_append, List.nil_append,
        List.cons.injEq, true_and] at h
      exact .inr ⟨c, v, by rw [← h, List.append_assoc]⟩
  · rintro (h | h)
    · exact h.trans (List.prefix_append s _).isInfix
    · exact h.trans ⟨s ++ ['\n'], [], by simp⟩

lemma isInfix_joinStreams (hne : needle ≠ []) {out err : Text} :
    needle <:+: joinStreams out err ↔ needle <:+: out ∨ needle <:+: err := by
  have hnil : ¬ needle <:+: [] := by simpa using hne
  rw [joinStreams]
  split
  · rename_i he
    simp [List.isEmpty_iff.1 he, hnil]
  split
  · rename_i ho
    rcases Bool.or_eq_true_iff.1 ho with ho | ho
    · simp [List.isEmpty_iff.1 ho, hnil]
    · obtain ⟨u, rfl⟩ := List.getLast?_eq_some_iff.1 (by simpa using ho)
      rw [List.append_assoc, List.singleton_append, isInfix_append_newline hn,
        isInfix_append_newline hn]
      simp [hnil]
  · exact isInfix_append_newline hn

end

namespace Spec

/-- No text comes to stand on a line by cutting prompts off. -/
lemma isInfix_of_stripPrompts {needle : Text} (hn : '\n' ∉ needle) (spec : Spec) {t : Text}
    (h : needle <:+: spec.stripPrompts t) : needle <:+: t := by
  rw [stripPrompts] at h
  split at h
  · exact h
  -- prompts are cut off one line, and what is left of the line still ends where it ended
  induction t using lineInduction with
  | nil => exact h
  | last l hne hl =>
    rw [splitInclusive_of_not_mem hl hne, List.flatMap_singleton] at h
    exact h.trans (stripAll_isSuffix _ l).isInfix
  | line l t hl ih =>
    rw [splitInclusive_append_newline_cons hl, List.flatMap_cons] at h
    rw [isInfix_append_newline hn]
    rcases List.suffix_concat_iff.1 (stripAll_isSuffix spec.stripPrefixes (l ++ ['\n'])) with
      hs | ⟨w, hs, hw⟩
    · rw [hs] at h
      exact .inr (ih h)
    · rw [hs, List.append_assoc, List.singleton_append, isInfix_append_newline hn] at h
      exact h.imp (·.trans hw.isInfix) ih

end Spec

variable {token : Text}

/-- A text of single bytes is read exactly where its bytes came. -/
lemma IsToken.isInfix_ofBytes (ht : IsToken token) {bytes : List UInt8} :
    token <:+: ofBytes bytes ↔ toBytes token <:+: bytes := by
  constructor
  · exact toBytes_isInfix_of_ofBytes ht.isAscii
  · rintro ⟨u, v, rfl⟩
    rw [List.append_assoc, ofBytes_append_toBytes u ht.isAscii ht.ne_nil]
    exact ⟨ofBytes u, ofBytes v, by simp⟩

namespace Streams

def on (s : Streams) : Stream → Received
  | .out => s.out
  | .err => s.err

lemma bytes_on_add (token : Text) (s : Streams) (stream t : Stream) (piece : List UInt8) :
    ((s.add token stream piece).on t).bytes =
      (s.on t).bytes ++ (Event.data stream piece).bytesOn t := by
  cases stream <;> cases t <;> simp [add, on, Received.add, Event.bytesOn]

/-- Streams that bring the text of a program and the lines of the sentinel, or a beginning of
this. -/
def Carries (token : Text) (program : Stream → List UInt8) (s : Streams) (events : List Event) :
    Prop :=
  ∀ stream, Arrived token (program stream) (s.on stream) ∧
    (s.on stream).bytes ++ Session.bytesOn stream events <+: framed (program stream) token

variable {program : Stream → List UInt8} {s : Streams}

lemma Carries.add (ht : IsToken token) (hp : ∀ stream, ¬ toBytes token <:+: program stream)
    {stream : Stream} {piece : List UInt8} {events : List Event}
    (h : Carries token program s (.data stream piece :: events)) :
    Carries token program (s.add token stream piece) events := by
  intro t
  obtain ⟨harrived, hpre⟩ := h t
  rw [bytesOn_cons, ← List.append_assoc] at hpre
  rw [bytes_on_add]
  refine ⟨?_, hpre⟩
  obtain ⟨rest, hrest⟩ := (List.prefix_append _ _).trans hpre
  have hmore : framed (program t) token <+:
      (s.on t).bytes ++ (Event.data stream piece).bytesOn t ++ rest := by rw [hrest]
  cases stream <;> cases t
  · exact harrived.add ht (hp .out) hmore
  · exact harrived
  · exact harrived
  · exact harrived.add ht (hp .err) hmore

/-- What came so far shows the token if one of the streams has brought it. -/
lemma isInfix_soFar (ht : IsToken token) (s : Streams) :
    token <:+: s.soFar ↔ ∃ stream, toBytes token <:+: (s.on stream).bytes := by
  have hstreams : (∃ stream, toBytes token <:+: (s.on stream).bytes) ↔
      toBytes token <:+: s.out.bytes ∨ toBytes token <:+: s.err.bytes :=
    ⟨fun ⟨stream, h⟩ => by cases stream <;> simp_all [on],
      fun h => h.elim (⟨.out, ·⟩) (⟨.err, ·⟩)⟩
  rw [soFar, isInfix_joinStreams ht.oneLine ht.ne_nil, ht.isInfix_ofBytes, ht.isInfix_ofBytes,
    hstreams]

/-- A complete output is what the program wrote. -/
lemma Carries.not_isInfix_of_complete (ht : IsToken token)
    (hp : ∀ stream, ¬ toBytes token <:+: program stream) {events : List Event}
    (h : Carries token program s events) (spec : Spec) {text : Text}
    (hc : s.complete? = some text) : ¬ token <:+: spec.stripPrompts text := by
  intro hin
  have htext := eq_of_complete? (h .out).1 (h .err).1 hc
  have hjoined := Spec.isInfix_of_stripPrompts ht.oneLine spec hin
  rw [htext, isInfix_joinStreams ht.oneLine ht.ne_nil, ht.isInfix_ofBytes,
    ht.isInfix_ofBytes] at hjoined
  exact hjoined.elim (hp .out) (hp .err)

end Streams

open Streams in
/-- What a run shows of the token, from any point on at which the streams are. -/
lemma isInfix_collectFrom (ht : IsToken token) {program : Stream → List UInt8}
    (hp : ∀ stream, ¬ toBytes token <:+: program stream) (spec : Spec) {s : Streams}
    {events : List Event} (h : Carries token program s events) :
    token <:+: (collectFrom spec token s events).output ↔
      (collectFrom spec token s events).status ≠ .ok ∧
        ∃ stream, toBytes token <:+:
          (s.on stream).bytes ++ bytesOn stream (events.take (takenFrom token s events)) := by
  -- a piece moves from the events to the streams, and the streams still carry the token
  induction events generalizing s with
  | nil =>
    cases hc : s.complete? with
    | some text => simp [collectFrom, hc, h.not_isInfix_of_complete ht hp spec hc]
    | none => simp [collectFrom, hc, isInfix_soFar ht]
  | cons e events ih =>
    cases hc : s.complete? with
    | some text => simp [collectFrom, hc, h.not_isInfix_of_complete ht hp spec hc]
    | none =>
      cases e with
      | data stream piece =>
        simp only [collectFrom, takenFrom, hc, List.take_succ_cons, bytesOn_cons,
          ← List.append_assoc, ← bytes_on_add token]
        exact ih (h.add ht hp)
      | closed stream => simp [collectFrom, takenFrom, hc, isInfix_soFar ht, Event.bytesOn]
      | timeout => simp [collectFrom, takenFrom, hc, isInfix_soFar ht, Event.bytesOn]

/-- Both streams bring the text of a program, without the token, and the lines of the sentinel
behind it, or a beginning of this. Then an output that is complete does not show the token, and any
other output shows it if and only if one of the streams had brought all of it when the run ended. -/
theorem collect_token_iff (spec : Spec) (process run : Nat) {program : Stream → List UInt8}
    (hp : ∀ stream, ¬ toBytes (tokenFor process run) <:+: program stream) {events : List Event}
    (hc : ∀ stream,
      bytesOn stream events <+: framed (program stream) (tokenFor process run)) :
    tokenFor process run <:+: (collect spec (tokenFor process run) events).output ↔
      (collect spec (tokenFor process run) events).status ≠ .ok ∧
        ∃ stream, toBytes (tokenFor process run) <:+:
          bytesOn stream (events.take (taken (tokenFor process run) events)) := by
  have hcarries : Streams.Carries (tokenFor process run) program .empty events := fun stream =>
    ⟨by cases stream <;> exact arrived_empty, by cases stream <;> exact hc _⟩
  have h := isInfix_collectFrom (isToken_tokenFor process run) hp spec hcarries
  have hempty : ∀ stream, (Streams.empty.on stream).bytes = [] := by rintro ⟨⟩ <;> rfl
  simp only [hempty, List.nil_append] at h
  exact h

/-- Standard output is through with its token, and the error stream closes inside the token. -/
theorem collect_token_iff_closed :
    ∃ (program : Stream → List UInt8) (events : List Event),
      (∀ stream, ¬ toBytes (tokenFor 7 2) <:+: program stream) ∧
      (∀ stream, bytesOn stream events <+: framed (program stream) (tokenFor 7 2)) ∧
      (collect .shell (tokenFor 7 2) events).status = .crashed ∧
      tokenFor 7 2 <:+: (collect .shell (tokenFor 7 2) events).output := by
  let program : Stream → List UInt8 := fun stream => if stream = .out then [0x68, 0x69] else []
  let events : List Event :=
    [.data .err ((framed [] (tokenFor 7 2)).take 9), .data .out (framed [0x68, 0x69] (tokenFor 7 2)),
      .closed .err]
  have hp : ∀ stream, ¬ toBytes (tokenFor 7 2) <:+: program stream := by
    rintro ⟨⟩ <;> decide +kernel
  have hc : ∀ stream, bytesOn stream events <+: framed (program stream) (tokenFor 7 2) := by
    rintro ⟨⟩ <;> decide +kernel
  have hstatus : (collect .shell (tokenFor 7 2) events).status = .crashed := by cbv
  refine ⟨program, events, hp, hc, hstatus, (collect_token_iff .shell 7 2 hp hc).2 ⟨?_, .out, ?_⟩⟩
  · rw [hstatus]
    decide
  · decide +kernel

/-- An output may show the token, although both streams brought nothing but the sentinel's lines:
standard output is through with it, and the time is up before the error stream says anything. -/
theorem token_in_output : ¬ ∀ (spec : Spec) (process run : Nat) (program : Stream → List UInt8)
    (events : List Event), (∀ stream, ¬ toBytes (tokenFor process run) <:+: program stream) →
      (∀ stream, bytesOn stream events <+: framed (program stream) (tokenFor process run)) →
      ¬ tokenFor process run <:+: (collect spec (tokenFor process run) events).output := by
  intro h
  refine h .shell 7 2 (fun _ => []) [.data .out (framed [] (tokenFor 7 2)), .timeout] ?_ ?_ ?_
  · rintro ⟨⟩ <;> decide +kernel
  · rintro ⟨⟩ <;> decide +kernel
  · have houtput : (collect .shell (tokenFor 7 2)
        [.data .out (framed [] (tokenFor 7 2)), .timeout]).output =
          '\n' :: tokenFor 7 2 ++ ['\n'] := by cbv
    rw [houtput]
    exact ⟨['\n'], ['\n'], rfl⟩

end Exemplar.Session
