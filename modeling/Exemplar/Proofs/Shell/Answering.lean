import Exemplar.Proofs.Session.Stale
import Exemplar.Proofs.Shell.Gathering
import Exemplar.Proofs.Shell.Printing

/-!
# Answering a run

A shell that has carried out the statements of a run comes to the sentinel. As long as its outputs
are open and nothing stands in front of them, all that is seen of the run is what the statements
wrote and then the token, so a session collects just what was written.
-/
namespace Exemplar.Session
open Text
variable {token : Text} {out err output : List UInt8}

@[simp] theorem bytesOn_append (stream : Stream) (xs ys : List Event) :
    bytesOn stream (xs ++ ys) = bytesOn stream xs ++ bytesOn stream ys := List.flatMap_append

/-- The end of an output is not seen while something of the frame is missing. -/
lemma Arrived.done_eq_none {r : Received} (h : Arrived token output r) {more : List UInt8}
    (hmore : more ≠ []) (hframed : framed output token = r.bytes ++ more) : r.done = none := by
  cases h with
  | part => rfl
  | whole hp =>
    have hle := hp.length_le
    have hpos := List.length_pos_iff.2 hmore
    simp only [hframed, List.length_append] at hle
    omega

/-- Where the last event brings the end of the second frame, all events are looked at. -/
lemma takenFrom_framed (ht : IsToken token) (hout : ¬ toBytes token <:+: out)
    (herr : ¬ toBytes token <:+: err) {s : Streams} (ho : Arrived token out s.out)
    (he : Arrived token err s.err) {front : List Event} (hdata : ∀ x ∈ front, x.isData = true)
    {last : List UInt8} (hlast : last ≠ [])
    (hfo : framed out token = s.out.bytes ++ bytesOn .out front)
    (hfe : framed err token = s.err.bytes ++ bytesOn .err front ++ last) :
    takenFrom token s (front ++ [.data .err last]) = front.length + 1 := by
  have hmore : ∀ front, bytesOn .err front ++ last ≠ [] := fun front =>
    List.append_ne_nil_of_right_ne_nil _ hlast
  induction front generalizing s with
  | nil =>
    have hdone : (s.on .err).done = none := he.done_eq_none hlast (by simpa using hfe)
    simp [takenFrom, Streams.complete?_eq_none hdone]
  | cons x front ih =>
    rw [List.forall_mem_cons] at hdata
    cases x with
    | closed | timeout => simp [Event.isData] at hdata
    | data stream piece =>
      have hdone : (s.on .err).done = none :=
        he.done_eq_none (hmore _) (by rw [hfe, List.append_assoc])
      have hstep : takenFrom token s (.data stream piece :: front ++ [.data .err last]) =
          takenFrom token (s.add token stream piece) (front ++ [.data .err last]) + 1 := by
        simp [takenFrom, Streams.complete?_eq_none hdone]
      rw [hstep, List.length_cons]
      congr 1
      simp only [bytesOn_cons, Event.bytesOn] at hfo hfe
      cases stream with
      | out =>
        simp only [if_true, reduceCtorEq, if_false, List.nil_append, ← List.append_assoc]
          at hfo hfe
        have hrest : framed out token <+: s.out.bytes ++ piece ++ bytesOn .out front := by rw [hfo]
        exact ih (ho.add ht hout hrest) he hdata.2 hfo hfe
      | err =>
        simp only [if_true, reduceCtorEq, if_false, List.nil_append, ← List.append_assoc]
          at hfo hfe
        have hrest : framed err token <+: s.err.bytes ++ piece ++ (bytesOn .err front ++ last) := by
          rw [hfe, List.append_assoc _ (bytesOn .err front)]
        exact ih ho (he.add ht herr hrest) hdata.2 hfo hfe

end Exemplar.Session

namespace Exemplar.Shell
open Session (Event Stream bytesOn)

namespace Write

/-- What is seen of something that was written. -/
def event (w : Write) : Running.Timed := (w.time, .data w.stream (toBytes w.text))

/-- The bytes that were written to a stream. -/
def bytesOn (stream : Stream) (ws : List Write) : List UInt8 :=
  Session.bytesOn stream (ws.map fun w => w.event.2)

end Write

namespace State

/-- A state in front of the sentinel of a session that is open. -/
structure Ready (s : State) : Prop extends s.Quiet where
  verbose : s.isOn .verbose = false
  noexec : s.isOn .noexec = false
  aliases : s.aliases.lookup printer = none
  closed : s.world.closed = []
  killed : s.world.killed = none
  /-- What was written stands in order, latest first, and nothing is still to be written. -/
  ordered : s.world.writes.Pairwise fun a b => b.time ≤ a.time
  past : ∀ w ∈ s.world.writes, w.time ≤ s.world.now

lemma Ready.atLine {s : State} (h : s.Ready) (line : Nat) :
    State.Ready { s with readLine := line, inputLine := line } :=
  ⟨⟨h.flow, h.functions, h.xtrace, h.out, h.err, h.due, h.signals, h.coming⟩, h.verbose, h.noexec,
    h.aliases, h.closed, h.killed, h.ordered, h.past⟩

lemma Ready.printed {s : State} (h : s.Ready) (line : Nat) (stream : Stream) (token : Text) :
    (s.printed line stream token).Ready where
  toQuiet := h.toQuiet.printed line stream token
  verbose := h.verbose
  noexec := h.noexec
  aliases := h.aliases
  closed := h.closed
  killed := h.killed
  ordered := by
    have hnow : s.world.now ≤ s.world.now + smallCost := Nat.le_add_right _ _
    exact List.pairwise_cons.2 ⟨fun w hw => (h.past w hw).trans hnow, h.ordered⟩
  past := by
    have hnow : s.world.now ≤ s.world.now + smallCost := Nat.le_add_right _ _
    exact List.forall_mem_cons.2 ⟨le_rfl, fun w hw => (h.past w hw).trans hnow⟩

/-- As long as the outputs stay open, all that is seen is what was written. -/
lemma Ready.timeline_eq {s : State} (h : s.Ready) :
    Running.timeline s none = s.world.writes.reverse.map Write.event := by
  have hordered : s.world.writes.reverse.Pairwise fun a b => a.time ≤ b.time :=
    List.pairwise_reverse.2 h.ordered
  have hclosing : ∀ stream, Running.closing s none stream = none := by
    intro stream
    simp [Running.closing, h.closed, Running.endOf, h.killed]
  have hdata : Running.dataEvents s = s.world.writes.reverse.map Write.event := by
    rw [Running.dataEvents, List.mergeSort_of_pairwise (by simpa using hordered)]
    rfl
  rw [Running.timeline, hdata, hclosing, hclosing]
  refine (List.mergeSort_of_pairwise ?_).trans (by simp)
  simp only [List.filterMap_cons, List.filterMap_nil, id_eq, List.append_nil, decide_eq_true_eq]
  exact List.pairwise_map.2 hordered

end State

namespace Running

/-- The state in which a process goes on with its script until a time. -/
def awake (p : Running) (last : Nat) : State :=
  { p.state with world := { p.state.world with
    horizon := last, now := max p.state.world.now p.now } }

/-- What a command makes of a state, once it was read. -/
def carriedOut (c : Command) (r : Reader) (s : State) : State :=
  Evaluation.run Evaluation.limit false c { s with readLine := r.line, inputLine := r.line }

/-- Complete commands are read and carried out one after the other. -/
inductive Carried : Reader → State → Reader → State → Prop
  | refl (r : Reader) (s : State) : Carried r s r s
  | blank {r r₁ r' : Reader} {s s' : State} (hr : r.next s.aliases = .ok (.blank, r₁))
    (hlt : r₁.rest.length < r.rest.length)
    (h : Carried r₁ (Evaluation.echoInput (Evaluation.consumed r r₁) s) r' s') :
    Carried r s r' s'
  | command {r r₁ r' : Reader} {s echoed s' : State} {c : Command}
    (hr : r.next s.aliases = .ok (.command c, r₁)) (hlt : r₁.rest.length < r.rest.length)
    (he : Evaluation.echoInput (Evaluation.consumed r r₁) s = echoed)
    (hs : echoed.isOn .noexec = false) (hflow : (carriedOut c r₁ echoed).flow = .next)
    (h : Carried r₁ (carriedOut c r₁ echoed) r' s') : Carried r s r' s'

/-- The commands that were carried out are behind. -/
lemma Carried.advance_eq {r r' : Reader} {s s' : State} (h : Carried r s r' s') {fuel : Nat}
    (hfuel : r.rest.length < fuel) :
    ∃ fuel', r'.rest.length < fuel' ∧ advance fuel r s = advance fuel' r' s' := by
  induction h generalizing fuel with
  | refl => exact ⟨fuel, hfuel, rfl⟩
  | @blank r r₁ r' s s' hr hlt h ih =>
    obtain ⟨fuel, rfl⟩ : ∃ n, fuel = n + 1 := ⟨fuel - 1, by omega⟩
    have hless : r₁.rest.length < fuel := by omega
    obtain ⟨fuel', hfuel', heq⟩ := ih hless
    refine ⟨fuel', hfuel', ?_⟩
    rw [advance, hr]
    exact heq
  | @command r r₁ r' s echoed s' c hr hlt he hs hflow h ih =>
    obtain ⟨fuel, rfl⟩ : ∃ n, fuel = n + 1 := ⟨fuel - 1, by omega⟩
    have hless : r₁.rest.length < fuel := by omega
    obtain ⟨fuel', hfuel', heq⟩ := ih hless
    refine ⟨fuel', hfuel', ?_⟩
    rw [carriedOut] at hflow heq
    rw [advance, hr]
    simp only [he, hs, Bool.false_eq_true, if_false, hflow, heq]

/-- The state once the line of the sentinel has been carried out. -/
def sentinelDone (line : Nat) (token : Text) (s : State) : State :=
  ({ s with readLine := line + 1, inputLine := line + 1 }.printed line .out token).printed line .err
    token

lemma ready_sentinelDone {s : State} (h : s.Ready) (line : Nat) (token : Text) :
    (sentinelDone line token s).Ready :=
  ((h.atLine (line + 1)).printed line .out token).printed line .err token

section
variable {s : State} (h : s.Ready) {r : Reader} (hr : r.Waits) {token : Text} (hne : token ≠ [])
  (ht : ∀ d ∈ token, isNameChar d = true) (hlen : token.length + 30 < Parse.most)
include h hr hne ht hlen

/-- A shell that is ready prints the token and waits for more. -/
theorem advance_sentinel (hrest : r.rest = Session.Spec.shell.sentinelFor token ++ ['\n'])
    (hn : s.world.now + 2 * State.smallCost < s.world.horizon) (fuel : Nat) :
    advance (fuel + 2) r s = ⟨.commands (.plain s.aliases (r.line + 1) none []),
      sentinelDone r.line token s, sentinelDone r.line token s, false⟩ := by
  let left := Reader.plain s.aliases (r.line + 1) none []
  let done := sentinelDone r.line token s
  have hnext : r.next s.aliases = .ok (.command (sentinelCommand r.line token), left) :=
    hr.next_sentinel hne ht hlen h.aliases hrest
  have hecho : ∀ t, Evaluation.echoInput t s = s := by simp [Evaluation.echoInput, h.verbose]
  have hrun : Evaluation.run Evaluation.limit false (sentinelCommand r.line token)
      { s with readLine := r.line + 1, inputLine := r.line + 1 } = sentinelDone r.line token s :=
    Evaluation.run_sentinel (h.atLine (r.line + 1)).toQuiet hn hne ht r.line false 999995
  have hflow : done.flow = .next := (ready_sentinelDone h r.line token).flow
  have hwait : left.next done.aliases = .error .unfinished := Reader.waits_plain.next_nil rfl
  have hlast : advance (fuel + 1) left done = ⟨.commands left, done, done, false⟩ := by
    rw [advance, hwait]
  have hline : left.line = r.line + 1 := rfl
  rw [advance, hnext]
  simp only [hecho, h.noexec, Bool.false_eq_true, if_false, hline, hrun]
  rw [hflow]
  exact hlast

end

/-- The statements of a run have been carried out, and the sentinel is next. -/
structure Carries (p : Running) (limit : Duration) (token : Text) (r : Reader) (s : State)
    (new : List Write) : Prop where
  commands : ∃ r₀, p.task = .commands r₀ ∧
    Carried r₀ (p.awake (p.now + limit.nanoseconds)) r s
  waits : r.Waits
  rest : r.rest = Session.Spec.shell.sentinelFor token ++ ['\n']
  ready : s.Ready
  writes : s.world.writes = new ++ p.state.world.writes
  horizon : s.world.horizon = p.now + limit.nanoseconds
  inTime : s.world.now + 2 * State.smallCost < s.world.horizon

/-- What is seen of a run: what its statements wrote, and then the sentinel. -/
def seen (token : Text) (s : State) (new : List Write) : List Timed :=
  new.reverse.map Write.event ++
    [(s.world.now + State.smallCost, .data .out (toBytes (sentinelOutput token))),
      (s.world.now + State.smallCost + State.smallCost,
        .data .err (toBytes (sentinelOutput token)))]

/-- The last batch ends with the sentinel. -/
lemma gather_seen (token : Text) (s : State) (new : List Write) :
    ∃ front n x, gather (seen token s new) = front ++
      [⟨n, s.world.now + State.smallCost + State.smallCost,
        .data .err (x ++ toBytes (sentinelOutput token))⟩] := by
  rw [seen, List.append_cons]
  exact gather_concat _ _ _ _

section
variable {p : Running} {limit : Duration} {token : Text} {r : Reader} {s : State}
  {new : List Write} (hc : p.Carries limit token r s new)
  (hne : token ≠ []) (ht : ∀ d ∈ token, isNameChar d = true)
  (hlen : token.length + 30 < Parse.most)
include hc

lemma Carries.timeline_drop (htaken : p.taken = p.state.world.writes.length) :
    (timeline (sentinelDone r.line token s) none).drop p.taken = seen token s new := by
  rw [(ready_sentinelDone hc.ready r.line token).timeline_eq, htaken, sentinelDone]
  simp [State.printed, hc.writes, seen, Write.event]

lemma Carries.seen_inTime : ∀ e ∈ seen token s new, e.1 ≤ p.now + limit.nanoseconds := by
  have hlast := hc.inTime
  rw [hc.horizon] at hlast
  intro e he
  simp only [seen, List.mem_append, List.mem_map, List.mem_reverse, List.mem_cons,
    List.not_mem_nil, or_false] at he
  rcases he with ⟨w, hw, rfl⟩ | rfl | rfl
  · have := hc.ready.past w (hc.writes ▸ List.mem_append_left _ hw)
    simp only [Write.event]
    omega
  · simp only
    omega
  · simp only
    omega

include hne ht hlen

lemma Carries.perform_eq : p.perform (p.now + limit.nanoseconds) =
    ⟨.commands (.plain s.aliases (r.line + 1) none []), sentinelDone r.line token s,
      sentinelDone r.line token s, false⟩ := by
  obtain ⟨r₀, htask, hcarried⟩ := hc.commands
  obtain ⟨fuel, hfuel, heq⟩ := hcarried.advance_eq (Nat.lt_succ_self r₀.rest.length)
  obtain ⟨n, rfl⟩ : ∃ n, fuel = n + 2 := by
    rw [hc.rest, List.length_append] at hfuel
    simp only [List.length_cons, List.length_nil] at hfuel
    have hpos : 0 < List.length (Session.Spec.shell.sentinelFor token) := by
      simp [sentinelFor_shell, printer]
    exact ⟨fuel - 2, by omega⟩
  rw [perform, htask]
  exact heq.trans (advance_sentinel hc.ready hc.waits hne ht hlen hc.rest hc.inTime n)

/-- All that comes while a run waits, and what the process is once all of it has been taken. -/
theorem Carries.listen_eq (htaken : p.taken = p.state.world.writes.length) :
    (p.listen limit).events = (gather (seen token s new)).map Batch.event ∧
      ∃ now, (sentinelDone r.line token s).world.now ≤ now ∧
        (p.listen limit).resume (gather (seen token s new)).length =
          ⟨.commands (.plain s.aliases (r.line + 1) none []), sentinelDone r.line token s, p.input,
            now, none, (sentinelDone r.line token s).world.writes.length, []⟩ := by
  have hdrop := hc.timeline_drop htaken
  have hwhile : (seen token s new).takeWhile (fun e => decide (e.1 ≤ p.now + limit.nanoseconds)) =
      seen token s new :=
    List.takeWhile_eq_self_iff.2 (by simpa using hc.seen_inTime)
  have hperform := hc.perform_eq hne ht hlen
  rw [listen]
  simp only [hperform, Bool.false_eq_true, if_false, hdrop, hwhile, List.take_length, count_gather]
  refine ⟨trivial, (gather (seen token s new)).foldl (fun now b => max now b.time) p.now, ?_, ?_⟩
  · obtain ⟨front, n, x, hg⟩ := gather_seen token s new
    rw [hg, List.foldl_append]
    exact le_max_right _ _
  have hcount : p.taken + (seen token s new).length =
      (sentinelDone r.line token s).world.writes.length := by
    simp only [htaken, seen, sentinelDone, State.printed, hc.writes, List.length_append,
      List.length_map, List.length_reverse, List.length_cons, List.length_nil]
    omega
  rw [Nat.zero_add, List.drop_length, hcount]

end

/-- A shell that has done all it was told, and of which nothing more is to be seen. -/
structure AtRest (p : Running) : Prop where
  task : ∃ r : Reader, p.task = .commands r ∧ r.Waits ∧ r.rest = []
  ready : p.state.Ready
  time : p.state.world.now ≤ p.now
  taken : p.taken = p.state.world.writes.length
  pending : p.pending = []
  ended : p.ended = none

/-- What a stream brings is what was written to it, in its frame. -/
lemma bytesOn_seen {token : Text} (ht : Session.IsToken token) (s : State) (new : List Write)
    (stream : Stream) :
    bytesOn stream ((gather (seen token s new)).map Batch.event) =
      Session.framed (Write.bytesOn stream new.reverse) token := by
  have houtput : toBytes (sentinelOutput token) = Text.toBytes ('\n' :: token ++ ['\n']) :=
    (Text.toBytes_eq_map ht.isAscii_frame).symm
  rw [bytesOn_gather, Session.framed, ← houtput]
  rw [seen, List.map_append, Session.bytesOn_append, Write.bytesOn, List.map_map]
  congr 1
  cases stream <;> simp [Event.bytesOn]

lemma isData_seen (token : Text) (s : State) (new : List Write) :
    ∀ e ∈ (gather (seen token s new)).map Batch.event, e.isData = true := by
  refine isData_gather ?_
  simp only [seen, List.forall_mem_append, List.forall_mem_cons, List.forall_mem_map]
  exact ⟨fun w _ => rfl, rfl, rfl, by simp⟩

lemma taken_seen {token : Text} (ht : Session.IsToken token) (s : State) (new : List Write)
    (hout : ¬ Text.toBytes token <:+: Write.bytesOn .out new.reverse)
    (herr : ¬ Text.toBytes token <:+: Write.bytesOn .err new.reverse) :
    Session.taken token ((gather (seen token s new)).map Batch.event) =
      (gather (seen token s new)).length := by
  obtain ⟨front, n, x, hg⟩ := gather_seen token s new
  have hbytes := fun stream => bytesOn_seen ht s new stream
  have hdata := isData_seen token s new
  rw [hg, List.map_append, List.forall_mem_append] at hdata
  simp only [hg, List.map_append, List.map_singleton, Session.bytesOn_append] at hbytes
  rw [hg, Session.taken, List.map_append, List.map_singleton, Session.takenFrom_framed ht hout herr
    Session.arrived_empty Session.arrived_empty hdata.1]
  · simp
  · simp [sentinelOutput, toBytes]
  · simpa [Session.Received.empty, Session.Streams.empty, Event.bytesOn] using (hbytes .out).symm
  · simpa [Session.Received.empty, Session.Streams.empty, Event.bytesOn] using (hbytes .err).symm

/-- All characters of a token may stand in names. -/
lemma isNameChar_tokenFor (process run : Nat) :
    ∀ d ∈ Session.tokenFor process run, isNameChar d = true := by
  have hbegin : Session.tokenPrefix.all isNameChar = true := by decide
  have hnumber : ∀ n, ∀ d ∈ Text.ofNat n, isNameChar d = true := by
    intro n d hd
    have := Text.isDigit_of_mem_ofNat hd
    simp [isNameChar, Char.isAlphanum, this]
  simp only [Session.tokenFor, List.forall_mem_append, List.forall_mem_cons]
  exact ⟨⟨List.all_eq_true.1 hbegin, by decide, hnumber process⟩, by decide, hnumber run⟩

section
variable (tree : Files.Tree) (owner : Nat) (live : Session.Live Running) {limit : Duration}
  {process run : Nat} {r : Reader} {s : State} {new : List Write}

/-- A session with a shell collects what the statements wrote, each output in front of the line of
its token, and the shell is at rest again. -/
theorem collect_carries
    (hc : live.process.Carries limit (Session.tokenFor process run) r s new)
    (htaken : live.process.taken = live.process.state.world.writes.length)
    (hlen : (Session.tokenFor process run).length + 30 < Parse.most)
    (hout : ¬ Text.toBytes (Session.tokenFor process run) <:+: Write.bytesOn .out new.reverse)
    (herr : ¬ Text.toBytes (Session.tokenFor process run) <:+: Write.bytesOn .err new.reverse) :
    ∃ p : Running, p.AtRest ∧
      live.collect (system tree owner) (Session.tokenFor process run) limit =
        (⟨live.spec.stripPrompts (Session.joinStreams
            (Text.ofBytes (Write.bytesOn .out new.reverse))
            (Text.ofBytes (Write.bytesOn .err new.reverse))), .ok⟩,
          { live with process := p }) := by
  have ht := Session.isToken_tokenFor process run
  obtain ⟨hevents, now, hnow, hresume⟩ :=
    hc.listen_eq ht.ne_nil (isNameChar_tokenFor process run) hlen htaken
  have hcollect := Session.collect_framed live.spec process run hout herr (isData_seen _ s new)
    (by rw [bytesOn_seen ht]) (by rw [bytesOn_seen ht]) []
  rw [List.append_nil] at hcollect
  have hrest : AtRest ⟨.commands (.plain s.aliases (r.line + 1) none []),
      sentinelDone r.line (Session.tokenFor process run) s, live.process.input, now, none,
      (sentinelDone r.line (Session.tokenFor process run) s).world.writes.length, []⟩ :=
    ⟨⟨_, rfl, Reader.waits_plain, rfl⟩, ready_sentinelDone hc.ready r.line _, hnow, rfl, rfl, rfl⟩
  refine ⟨_, hrest, ?_⟩
  rw [Session.Live.collect]
  have hlisten : (system tree owner).listen live.process limit = live.process.listen limit := rfl
  simp only [hlisten, hevents, hcollect, taken_seen ht s new hout herr, hresume, if_true]

end

end Running

end Exemplar.Shell
