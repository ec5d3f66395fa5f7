import Exemplar.Session.Basic
import Exemplar.Session.Spec
import Exemplar.Text.Utf8

/-!
# The output of one run

The output of a run is what both streams carry before the line with its token. Bytes
arrive in pieces, in any order between the streams; a stream is done once its token line
is complete. A stream that closes ends the session, and so does the time limit.
-/
namespace Exemplar.Session
open Text

/-- Begins every token. -/
def tokenPrefix : Text := "__run_examples_done".toList

/-- The token of a run: no two runs of a process share it. -/
def tokenFor (process run : Nat) : Text :=
  tokenPrefix ++ '_' :: Text.ofNat process ++ '_' :: Text.ofNat run

/-- The text before its last line break; nothing if there is none. -/
def beforeLastBreak (t : Text) : Text := ((t.reverse.dropWhile (· != '\n')).drop 1).reverse

theorem dropWhile_notBreak {l : Text} (h : '\n' ∉ l) (r : Text) :
    (l.reverse ++ r).dropWhile (· != '\n') = r.dropWhile (· != '\n') := by
  apply List.dropWhile_append_of_pos
  intro c hc
  simp only [bne_iff_ne, ne_eq]
  rintro rfl
  exact h (List.mem_reverse.mp hc)

/-- A line break that nothing but a single line follows is the last one. -/
theorem beforeLastBreak_append {s l : Text} (h : '\n' ∉ l) :
    beforeLastBreak (s ++ '\n' :: l) = s := by
  simp [beforeLastBreak, dropWhile_notBreak h]

/-- The text before the line that carries the token, without the break that the sentinel
printed in front of it. There is none until the whole line has arrived. -/
def beforeToken? (bytes : List UInt8) (token : Text) : Option Text :=
  match breakOn token (ofBytes bytes) with
  | none => none
  | some (before, after) =>
    if '\n' ∈ token ++ after then some (beforeLastBreak before) else none

/-- Standard output, and the error stream on lines of its own behind it. -/
def joinStreams (out err : Text) : Text :=
  if err.isEmpty then out
  else if out.isEmpty || out.getLast? == some '\n' then out ++ err
  else out ++ '\n' :: err

inductive Stream
  | out
  | err
  deriving DecidableEq, Repr

/-- What happens while a run waits for its output. -/
inductive Event
  | data (stream : Stream) (bytes : List UInt8)
  | closed (stream : Stream)
  | timeout
  deriving DecidableEq, Repr

/-- What has arrived of one stream, and its output once it is done. -/
structure Received where
  bytes : List UInt8
  done : Option Text
  deriving DecidableEq, Repr

namespace Received

def empty : Received := ⟨[], none⟩

def add (token : Text) (r : Received) (bytes : List UInt8) : Received :=
  let all := r.bytes ++ bytes
  ⟨all, match r.done with
    | some t => some t
    | none => beforeToken? all token⟩

end Received

structure Streams where
  out : Received
  err : Received
  deriving DecidableEq, Repr

namespace Streams

def empty : Streams := ⟨.empty, .empty⟩

def add (token : Text) (s : Streams) (stream : Stream) (bytes : List UInt8) : Streams :=
  match stream with
  | .out => ⟨s.out.add token bytes, s.err⟩
  | .err => ⟨s.out, s.err.add token bytes⟩

/-- The output, once both streams are done. -/
def complete? (s : Streams) : Option Text :=
  match s.out.done, s.err.done with
  | some out, some err => some (joinStreams out err)
  | _, _ => none

/-- Everything that has arrived. -/
def soFar (s : Streams) : Text := joinStreams (ofBytes s.out.bytes) (ofBytes s.err.bytes)

end Streams

/-- Wait for the output of a run. When the events end, the time is up. -/
def collectFrom (spec : Spec) (token : Text) (s : Streams) : List Event → Response
  | [] =>
    match s.complete? with
    | some output => ⟨spec.stripPrompts output, .ok⟩
    | none => ⟨s.soFar, .timedOut⟩
  | e :: es =>
    match s.complete? with
    | some output => ⟨spec.stripPrompts output, .ok⟩
    | none =>
      match e with
      | .data stream bytes => collectFrom spec token (s.add token stream bytes) es
      | .closed _ => ⟨s.soFar, .crashed⟩
      | .timeout => ⟨s.soFar, .timedOut⟩

def collect (spec : Spec) (token : Text) (events : List Event) : Response :=
  collectFrom spec token .empty events

/-- How many events are looked at. Those behind the complete output stay where they are. -/
def takenFrom (token : Text) (s : Streams) : List Event → Nat
  | [] => 0
  | e :: es =>
    match s.complete?, e with
    | some _, _ => 0
    | none, .data stream bytes => takenFrom token (s.add token stream bytes) es + 1
    | none, _ => 1

def taken (token : Text) (events : List Event) : Nat := takenFrom token .empty events

end Exemplar.Session
