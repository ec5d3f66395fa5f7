import Exemplar.Proofs.Text.Decoding
import Exemplar.Proofs.Text.Occurrence
import Exemplar.Session.Frame
import Mathlib

/-!
# Output in front of a token

The bytes of a stream are read anew whenever a piece of them arrives, until the line with the
token is complete. A token is written with single bytes on one line, so no piece shows it before
its bytes are there, and the bytes behind its line do not change what was read in front of it.
The output of a run is therefore the same however the streams are cut and mixed.
-/
namespace Exemplar.Session
open Text

/-- A text that can end an output. -/
structure IsToken (token : Text) : Prop where
  ne_nil : token ≠ []
  oneLine : '\n' ∉ token
  isAscii : IsAscii token

theorem isToken_tokenFor (process run : Nat) : IsToken (tokenFor process run) where
  ne_nil := by simp [tokenFor]
  oneLine := by
    have hbegin : '\n' ∉ tokenPrefix := by decide
    have hnumber : ∀ n, '\n' ∉ ofNat n := fun n hn =>
      absurd (isDigit_of_mem_ofNat hn) (by decide)
    simp [tokenFor, hbegin, hnumber]
  isAscii := by
    have hall : tokenPrefix.all (fun c => c.toNat < 128) = true := by decide
    have hbegin : IsAscii tokenPrefix := by simpa [IsAscii] using hall
    have hmark : '_'.toNat < 128 := by decide
    simp only [tokenFor, List.append_assoc, List.cons_append, isAscii_append, isAscii_cons]
    exact ⟨hbegin, hmark, isAscii_ofNat process, hmark, isAscii_ofNat run⟩

/-- An output with the lines of the sentinel behind it. -/
def framed (output : List UInt8) (token : Text) : List UInt8 :=
  output ++ toBytes ('\n' :: token ++ ['\n'])

variable {token : Text} {output : List UInt8}

lemma IsToken.isAscii_frame (h : IsToken token) : IsAscii ('\n' :: token ++ ['\n']) := by
  rw [isAscii_append, isAscii_cons]
  exact ⟨⟨by decide, h.isAscii⟩, by simp [IsAscii]⟩

lemma ofBytes_framed (h : IsToken token) (output more : List UInt8) :
    ofBytes (framed output token ++ more) =
      ofBytes output ++ ['\n'] ++ token ++ '\n' :: ofBytes more := by
  rw [framed, List.append_assoc, ofBytes_append_toBytes output h.isAscii_frame (by simp)]
  simp

/-- A part of the frame is the output, or less, or goes on with a part of the token's line. -/
lemma isPrefix_framed_cases (h : IsToken token) {part : List UInt8}
    (hp : part <+: framed output token) (hlt : part.length < (framed output token).length) :
    part <+: output ∨ ∃ q, q <+: token ∧ part = output ++ toBytes ('\n' :: q) := by
  rcases List.prefix_or_prefix_of_prefix hp (List.prefix_append output _) with hpre | ⟨Q, rfl⟩
  · exact .inl hpre
  rw [framed, List.prefix_append_right_inj, toBytes_eq_map h.isAscii_frame,
    List.prefix_map_iff] at hp
  obtain ⟨q, hq, rfl⟩ := hp
  rw [framed, toBytes_eq_map h.isAscii_frame] at hlt
  simp only [List.length_append, List.length_map] at hlt
  rcases List.prefix_concat_iff.1 hq with rfl | hq
  · simp at hlt
  rcases List.prefix_cons_iff.1 hq with rfl | ⟨q', rfl, hq'⟩
  · exact .inl (by simp)
  · have hascii : IsAscii ('\n' :: q') :=
      h.isAscii_frame.of_isPrefix (hq.trans (List.prefix_append _ _))
    exact .inr ⟨q', hq', by rw [toBytes_eq_map hascii]⟩

/-- A text on one line that begins no later than a line break stands in front of it. -/
lemma isInfix_of_append_newline {needle s w u v : Text} (hn : '\n' ∉ needle)
    (h : s ++ '\n' :: w = u ++ needle ++ v) (hu : u.length ≤ s.length) : needle <:+: s := by
  rw [List.append_assoc] at h
  obtain ⟨c, rfl⟩ : u <+: s := List.prefix_of_prefix_length_le ⟨_, h.symm⟩ ⟨_, rfl⟩ hu
  rw [List.append_assoc, List.append_cancel_left_eq] at h
  rcases List.append_eq_append_iff.1 h with ⟨d, rfl, hd⟩ | ⟨d, rfl, -⟩
  · cases d with
    | nil => exact ⟨u, [], by simp⟩
    | cons x d =>
      obtain ⟨rfl, -⟩ := List.cons.inj hd
      exact absurd (List.mem_append_right c List.mem_cons_self) hn
  · exact ⟨u, d, by simp⟩

/-- Once the line with the token has arrived, the output is what was read in front of it. -/
theorem beforeToken?_framed (h : IsToken token) (ho : ¬ toBytes token <:+: output)
    (more : List UInt8) : beforeToken? (framed output token ++ more) token =
      some (ofBytes output) := by
  have hno : ¬ token <:+: ofBytes output := fun hi => ho (toBytes_isInfix_of_ofBytes h.isAscii hi)
  have hfirst : FirstOccurrence token (ofBytes (framed output token ++ more))
      (ofBytes output ++ ['\n']) ('\n' :: ofBytes more) := by
    refine ⟨ofBytes_framed h output more, fun u v he => ?_⟩
    rw [ofBytes_framed h, List.append_assoc, List.append_assoc, List.singleton_append] at he
    by_contra hlt
    refine hno (isInfix_of_append_newline h.oneLine he ?_)
    rw [List.length_append, List.length_singleton] at hlt
    omega
  rw [beforeToken?, breakOn_eq_some.2 hfirst]
  simp [beforeLastBreak_append]

/-- Nothing is found while a part of this line is missing. -/
theorem beforeToken?_eq_none (h : IsToken token) (ho : ¬ toBytes token <:+: output)
    {part : List UInt8} (hp : part <+: framed output token)
    (hlt : part.length < (framed output token).length) : beforeToken? part token = none := by
  rw [beforeToken?]
  rcases isPrefix_framed_cases h hp hlt with hpre | ⟨q, hq, rfl⟩
  · have hnone : breakOn token (ofBytes part) = none :=
      breakOn_eq_none.2 fun hi =>
        ho ((toBytes_isInfix_of_ofBytes h.isAscii hi).trans hpre.isInfix)
    rw [hnone]
  · cases hb : breakOn token (ofBytes (output ++ toBytes ('\n' :: q))) with
    | none => rfl
    | some found =>
      obtain ⟨before, after⟩ := found
      have hascii : IsAscii ('\n' :: q) := isAscii_cons.2 ⟨by decide, h.isAscii.of_isPrefix hq⟩
      have hread : ofBytes (output ++ toBytes ('\n' :: q)) = ofBytes output ++ '\n' :: q := by
        have := ofBytes_append_toBytes output hascii (by simp) []
        simpa using this
      have hspells := hread ▸ breakOn_spells hb
      -- the token begins behind the output, where there is room for it and nothing more
      have hbehind : (ofBytes output).length < before.length := by
        by_contra hle
        exact ho (toBytes_isInfix_of_ofBytes h.isAscii
          (isInfix_of_append_newline h.oneLine hspells (by omega)))
      have hlength := congrArg List.length hspells
      have hqt := hq.length_le
      simp only [List.length_append, List.length_cons] at hlength
      obtain rfl : after = [] := List.length_eq_zero_iff.1 (by omega)
      simp [h.oneLine]

/-- What has arrived of a framed output: less than the frame, or the frame and more. -/
inductive Arrived (token : Text) (output : List UInt8) : Received → Prop
  | part {bytes : List UInt8} (hp : bytes <+: framed output token)
      (hlt : bytes.length < (framed output token).length) : Arrived token output ⟨bytes, none⟩
  | whole {bytes : List UInt8} (hp : framed output token <+: bytes) :
      Arrived token output ⟨bytes, some (ofBytes output)⟩

lemma arrived_empty : Arrived token output .empty := by
  have hbreak : toBytes ('\n' :: token ++ ['\n']) ≠ [] := by
    rw [List.cons_append, toBytes_cons (by decide)]
    exact List.cons_ne_nil _ _
  exact .part List.nil_prefix
    (List.length_pos_iff.2 (List.append_ne_nil_of_right_ne_nil output hbreak))

/-- Another piece keeps the output that was found, and else it is looked for anew. -/
lemma Arrived.add (ht : IsToken token) (ho : ¬ toBytes token <:+: output) {r : Received}
    (h : Arrived token output r) {piece rest : List UInt8}
    (hrest : framed output token <+: r.bytes ++ piece ++ rest) :
    Arrived token output (r.add token piece) := by
  cases h with
  | whole hp => exact .whole (hp.trans (List.prefix_append _ _))
  | @part bytes hp _ =>
    by_cases hlt : (bytes ++ piece).length < (framed output token).length
    · have hpart : bytes ++ piece <+: framed output token :=
        List.prefix_of_prefix_length_le (List.prefix_append _ rest) hrest hlt.le
      rw [Received.add, beforeToken?_eq_none ht ho hpart hlt]
      exact .part hpart hlt
    · obtain ⟨more, hmore⟩ : framed output token <+: bytes ++ piece :=
        List.prefix_of_prefix_length_le hrest (List.prefix_append _ rest) (not_lt.1 hlt)
      rw [Received.add, ← hmore, beforeToken?_framed ht ho more]
      exact .whole (List.prefix_append _ more)

lemma Arrived.done_eq {r : Received} (h : Arrived token output r) {t : Text}
    (hd : r.done = some t) : t = ofBytes output := by
  cases h with
  | part => simp at hd
  | whole => exact (Option.some.inj hd).symm

lemma Arrived.done_of_framed {r : Received} (h : Arrived token output r)
    (hp : framed output token <+: r.bytes) : r.done = some (ofBytes output) := by
  cases h with
  | part _ hlt => exact absurd hp.length_le (not_le.2 hlt)
  | whole => rfl

namespace Event

def isData : Event → Bool
  | data _ _ => true
  | _ => false

/-- The bytes that an event brings on a stream. -/
def bytesOn (stream : Stream) : Event → List UInt8
  | data s bytes => if s = stream then bytes else []
  | _ => []

end Event

/-- The bytes that events bring on a stream, put together. -/
def bytesOn (stream : Stream) (events : List Event) : List UInt8 :=
  events.flatMap (Event.bytesOn stream)

@[simp] theorem bytesOn_nil (stream : Stream) : bytesOn stream [] = [] := rfl

@[simp] theorem bytesOn_cons (stream : Stream) (x : Event) (events : List Event) :
    bytesOn stream (x :: events) = x.bytesOn stream ++ bytesOn stream events :=
  List.flatMap_cons

lemma Streams.eq_of_complete? {s : Streams} {out err : List UInt8}
    (ho : Arrived token out s.out) (he : Arrived token err s.err) {text : Text}
    (h : s.complete? = some text) : text = joinStreams (ofBytes out) (ofBytes err) := by
  rw [Streams.complete?] at h
  split at h
  · rename_i o e hdo hde
    rw [ho.done_eq hdo, he.done_eq hde] at h
    exact (Option.some.inj h).symm
  · cases h

/-- A run whose output is complete takes no more events. -/
lemma collectFrom_of_complete {spec : Spec} {s : Streams} {text : Text}
    (h : s.complete? = some text) (events : List Event) :
    collectFrom spec token s events = ⟨spec.stripPrompts text, .ok⟩ := by
  cases events <;> simp [collectFrom, h]

/-- What a run collects if both outputs are framed and come before anything else happens. -/
lemma collectFrom_framed (ht : IsToken token) {out err : List UInt8}
    (hout : ¬ toBytes token <:+: out) (herr : ¬ toBytes token <:+: err) (spec : Spec)
    {s : Streams} (ho : Arrived token out s.out) (he : Arrived token err s.err)
    {before : List Event} (hdata : ∀ x ∈ before, x.isData = true)
    (hfo : framed out token <+: s.out.bytes ++ bytesOn .out before)
    (hfe : framed err token <+: s.err.bytes ++ bytesOn .err before) (after : List Event) :
    collectFrom spec token s (before ++ after) =
      ⟨spec.stripPrompts (joinStreams (ofBytes out) (ofBytes err)), .ok⟩ := by
  induction before generalizing s with
  | nil =>
    rw [bytesOn_nil, List.append_nil] at hfo hfe
    refine collectFrom_of_complete ?_ after
    rw [Streams.complete?, ho.done_of_framed hfo, he.done_of_framed hfe]
  | cons x before ih =>
    rw [List.cons_append]
    cases hc : s.complete? with
    | some text => rw [collectFrom_of_complete hc, Streams.eq_of_complete? ho he hc]
    | none =>
      have hrest := fun y hy => hdata y (List.mem_cons_of_mem x hy)
      cases x with
      | closed | timeout => simp [Event.isData] at hdata
      | data stream piece =>
        rw [collectFrom, hc]
        rw [bytesOn_cons, ← List.append_assoc] at hfo hfe
        cases stream with
        | out =>
          have hsame : s.err.bytes ++ Event.bytesOn .err (.data .out piece) = s.err.bytes := by
            simp [Event.bytesOn]
          rw [hsame] at hfe
          exact ih (ho.add ht hout hfo) he hrest hfo hfe
        | err =>
          have hsame : s.out.bytes ++ Event.bytesOn .out (.data .err piece) = s.out.bytes := by
            simp [Event.bytesOn]
          rw [hsame] at hfo
          exact ih ho (he.add ht herr hfe) hrest hfo hfe

/-- If both streams bring an output without the token and the sentinel's lines behind it, the run
collects just these outputs, the second behind the first. The bytes may be cut into pieces in any
way, also inside a character or the token, and the streams may be mixed in any order. It is enough
that both lines of the token are complete before a stream closes or the time is up; what comes
behind them does not matter. -/
theorem collect_framed (spec : Spec) (process run : Nat) {out err : List UInt8}
    (hout : ¬ toBytes (tokenFor process run) <:+: out)
    (herr : ¬ toBytes (tokenFor process run) <:+: err) {before : List Event}
    (hdata : ∀ x ∈ before, x.isData = true)
    (hfo : framed out (tokenFor process run) <+: bytesOn .out before)
    (hfe : framed err (tokenFor process run) <+: bytesOn .err before) (after : List Event) :
    collect spec (tokenFor process run) (before ++ after) =
      ⟨spec.stripPrompts (joinStreams (ofBytes out) (ofBytes err)), .ok⟩ :=
  collectFrom_framed (s := .empty) (isToken_tokenFor process run) hout herr spec arrived_empty
    arrived_empty hdata hfo hfe after

/-- The pieces end inside a character and inside the token, the output ends inside a character,
and a stream closes right behind the second token. -/
theorem collect_framed_cut :
    ∃ (out err : List UInt8) (pieces : List Event), (∀ x ∈ pieces, x.isData = true) ∧
      ¬ toBytes (tokenFor 7 3) <:+: out ∧ ¬ toBytes (tokenFor 7 3) <:+: err ∧
      pieces.length = 5 ∧
      collect .shell (tokenFor 7 3) (pieces ++ [.closed .out]) =
        ⟨"é\uFFFD\n!".toList, .ok⟩ := by
  let out : List UInt8 := [0xC3, 0xA9, 0xE2, 0x82]
  let err : List UInt8 := [0x21]
  let pieces : List Event :=
    [.data .out [0xC3], .data .err ((framed err (tokenFor 7 3)).take 9),
      .data .out ((framed out (tokenFor 7 3)).drop 1 ++ [0xFF]), .data .out [0x0A],
      .data .err ((framed err (tokenFor 7 3)).drop 9)]
  have hdata : ∀ x ∈ pieces, x.isData = true := by decide
  have hout : ¬ toBytes (tokenFor 7 3) <:+: out := by decide +kernel
  have herr : ¬ toBytes (tokenFor 7 3) <:+: err := by decide +kernel
  have hfo : framed out (tokenFor 7 3) <+: bytesOn .out pieces := by decide +kernel
  have hfe : framed err (tokenFor 7 3) <+: bytesOn .err pieces := by decide +kernel
  refine ⟨out, err, pieces, hdata, hout, herr, rfl, ?_⟩
  rw [collect_framed .shell 7 3 hout herr hdata hfo hfe]
  cbv

end Exemplar.Session
