import Exemplar.Session.Live
import Mathlib

/-!
# The life of a session

A run is answered in full, and the session goes on, or the session is over and its input is closed.
Nothing brings a session back that is over. It refuses every run without a word to the process, and
there is nothing left to shut down.
-/
namespace Exemplar.Session
open Text

/-- What is asked of a session. -/
inductive Call
  | run (statements : List Text) (limit : Duration)
  | shutdown

/-- What a session that is over replies. -/
def Call.refused (language : String) : Call → Option (Except Error Response)
  | .run _ _ => some (.error (.closed language))
  | .shutdown => none

/-- Processes with a note of all that was written to them. -/
def System.noted {π : Type} (system : System π) : System (π × List Text) where
  launch program args := (system.launch program args).map (·, [])
  leftOver p :=
    let heard := system.leftOver p.1
    ⟨heard.events, fun n => (heard.resume n, p.2)⟩
  send p input :=
    let (written, process) := system.send p.1 input
    (written, process, p.2 ++ [input])
  listen p limit :=
    let heard := system.listen p.1 limit
    ⟨heard.events, fun n => (heard.resume n, p.2)⟩
  stop p grace := (system.stop p.1 grace, p.2)
  wait p d := (system.wait p.1 d, p.2)

namespace Live
variable {π : Type}

section
variable (system : System π) (owner : Nat)

/-- The reply to a call, if there is one, and the session after it. -/
def call (s : Live π) : Call → Option (Except Error Response) × Live π
  | .run statements limit =>
    let (reply, s) := s.run system owner statements limit
    (some reply, s)
  | .shutdown => (none, s.shutdown system)

/-- The replies to one call after another, and the session after them. -/
def calls (s : Live π) : List Call → List (Option (Except Error Response)) × Live π
  | [] => ([], s)
  | c :: cs =>
    let (reply, s) := s.call system owner c
    let (replies, s) := s.calls cs
    (reply :: replies, s)

/-- The session with an empty note. -/
def noting (s : Live π) : Live (π × List Text) :=
  ⟨s.spec, (s.process, []), s.inputOpen, s.alive, s.runs⟩

/-- The session without its note. -/
def forget (s : Live (π × List Text)) : Live π :=
  ⟨s.spec, s.process.1, s.inputOpen, s.alive, s.runs⟩

/-- All that calls write to the process. -/
def sent (s : Live π) (cs : List Call) : List Text :=
  (s.noting.calls system.noted owner cs).2.process.2

end

variable (system : System π) (owner : Nat) {s : Live π}

variable {system} in
lemma discardPending_process {isOpen : Bool} {s' : Live π}
    (h : s.discardPending system = (isOpen, s')) : ∃ process, s' = { s with process } :=
  ⟨_, (congrArg Prod.snd h).symm⟩

variable {system} in
lemma send_process {input : Text} {written : Written} {s' : Live π}
    (h : s.send system input = (written, s')) : ∃ process, s' = { s with process } := by
  rw [send] at h
  split at h
  · exact ⟨_, (congrArg Prod.snd h).symm⟩
  · exact ⟨s.process, (congrArg Prod.snd h).symm⟩

/-- What a run of a session comes to. The session goes on after a complete output, and is over
after anything else. -/
inductive RunsTo (s : Live π) : Except Error Response × Live π → Prop
  | goesOn {r : Response} (hr : r.status = .ok) (process : π) (runs : Nat) :
      s.RunsTo (.ok r, { s with process, runs })
  | ends {reply : Except Error Response} (hreply : ∀ r, reply = .ok r → r.status ≠ .ok)
      (process : π) (runs : Nat) : s.RunsTo (reply, ⟨s.spec, process, false, false, runs⟩)

lemma RunsTo.of_process {x : Except Error Response × Live π} {process : π} {runs : Nat}
    (h : RunsTo { s with process, runs } x) : s.RunsTo x := by
  cases h with
  | goesOn hr process runs => exact .goesOn hr process runs
  | ends hreply process runs => exact .ends hreply process runs

/-- The session is alive behind the one ending, and not behind the other. -/
lemma RunsTo.alive_iff {x : Except Error Response × Live π} (h : s.RunsTo x)
    (hs : s.alive = true) : x.2.alive = true ↔ ∃ r, x.1 = .ok r ∧ r.status = .ok := by
  cases h with
  | goesOn hr process runs => simp [hs, hr]
  | ends hreply process runs => simpa using hreply

lemma request_runsTo (token input : Text) (limit : Duration) :
    s.RunsTo (s.request system token input limit) := by
  rw [request]
  -- by what became of writing: the pipe was broken, something else went wrong, or it was sent
  split
  case h_1 s' hsend =>
    obtain ⟨process, rfl⟩ := send_process hsend
    exact .ends (by rintro _ ⟨⟩; simp) _ _
  case h_2 cause s' hsend =>
    obtain ⟨process, rfl⟩ := send_process hsend
    exact .ends (by rintro _ ⟨⟩) _ _
  case h_3 s' hsend =>
    obtain ⟨process, rfl⟩ := send_process hsend
    dsimp only [collect]
    split
    case isTrue hok => exact .goesOn hok _ _
    case isFalse hok => exact .ends (by rintro _ ⟨⟩; exact hok) _ _

lemma run_runsTo (hs : s.alive = true) (statements : List Text) (limit : Duration) :
    s.RunsTo (s.run system owner statements limit) := by
  rw [run, if_pos hs]
  -- by what was left over: a closed stream, or nothing that matters
  split
  case h_1 s' hdiscard =>
    obtain ⟨process, rfl⟩ := discardPending_process hdiscard
    exact .ends (by rintro _ ⟨⟩; simp) _ _
  case h_2 s' hdiscard =>
    obtain ⟨process, rfl⟩ := discardPending_process hdiscard
    exact (request_runsTo system _ _ limit).of_process

lemma run_of_not_alive (hs : s.alive = false) (statements : List Text) (limit : Duration) :
    s.run system owner statements limit = (.error (.closed s.spec.language), s) := by
  simp [run, hs]

lemma shutdown_of_not_alive (hs : s.alive = false) : s.shutdown system = s := by
  simp [shutdown, hs]

/-- Only a run with a complete output leaves a session alive. -/
lemma run_alive_iff (s : Live π) (statements : List Text) (limit : Duration) :
    (s.run system owner statements limit).2.alive = true ↔
      ∃ r, (s.run system owner statements limit).1 = .ok r ∧ r.status = .ok := by
  cases hs : s.alive with
  | false => simp [run_of_not_alive system owner hs, hs]
  | true => exact (run_runsTo system owner hs statements limit).alive_iff hs

/-- A session of a description, which has an input as long as it is alive. -/
structure InOrder (spec : Spec) (s : Live π) : Prop where
  spec_eq : s.spec = spec
  inputOpen_eq : s.inputOpen = s.alive

variable {spec : Spec}

lemma InOrder.runsTo {x : Except Error Response × Live π} (hs : s.InOrder spec)
    (h : s.RunsTo x) : x.2.InOrder spec := by
  cases h with
  | goesOn hr process runs => exact ⟨hs.spec_eq, hs.inputOpen_eq⟩
  | ends hreply process runs => exact ⟨hs.spec_eq, rfl⟩

lemma InOrder.run (hs : s.InOrder spec) (statements : List Text) (limit : Duration) :
    (s.run system owner statements limit).2.InOrder spec := by
  cases ha : s.alive with
  | false => rwa [run_of_not_alive system owner ha]
  | true => exact hs.runsTo (run_runsTo system owner ha statements limit)

lemma InOrder.shutdown (hs : s.InOrder spec) : (s.shutdown system).InOrder spec := by
  rw [Live.shutdown]
  split
  · exact ⟨hs.spec_eq, rfl⟩
  · exact hs

lemma InOrder.calls (hs : s.InOrder spec) (cs : List Call) :
    (s.calls system owner cs).2.InOrder spec := by
  induction cs generalizing s with
  | nil => exact hs
  | cons c cs ih =>
    cases c with
    | run statements limit => exact ih (hs.run system owner statements limit)
    | shutdown => exact ih (hs.shutdown system)

variable {system owner} in
/-- A session is alive and in order when it has started. -/
lemma inOrder_of_start (h : start system owner spec = .ok s) :
    s.alive = true ∧ s.InOrder spec := by
  rw [start] at h
  split at h
  · cases h
  next process _ =>
    -- a start is the first run, and it has to be answered in full
    let fresh : Live π := ⟨spec, process, true, true, 0⟩
    have horder := (InOrder.mk rfl rfl : fresh.InOrder spec).run system owner spec.init startLimit
    have halive := run_alive_iff system owner fresh spec.init startLimit
    dsimp only at h
    split at h
    · cases h
    next r s' hrun =>
      rw [show fresh.run system owner spec.init startLimit = _ from hrun] at horder halive
      split at h
      next hok =>
        cases h
        exact ⟨halive.2 ⟨r, rfl, hok⟩, horder⟩
      · cases h

lemma calls_of_not_alive (hs : s.alive = false) (cs : List Call) :
    s.calls system owner cs = (cs.map (Call.refused s.spec.language), s) := by
  induction cs with
  | nil => rfl
  | cons c cs ih =>
    cases c with
    | run statements limit =>
      simp [calls, call, run_of_not_alive system owner hs, ih, Call.refused]
    | shutdown => simp [calls, call, shutdown_of_not_alive system hs, ih, Call.refused]

lemma sent_of_not_alive (hs : s.alive = false) (cs : List Call) : s.sent system owner cs = [] := by
  -- the session with its note is over as well, so it stays as it is, and so does the note
  have hnoting : s.noting.alive = false := hs
  rw [sent, calls_of_not_alive _ _ hnoting, noting]

lemma discardPending_forget (s : Live (π × List Text)) :
    s.forget.discardPending system = (s.discardPending system.noted).map id forget := rfl

lemma send_forget (s : Live (π × List Text)) (input : Text) :
    s.forget.send system input = (s.send system.noted input).map id forget := by
  by_cases h : s.inputOpen = true
  · simp [send, forget, h, System.noted]
  · simp [send, forget, h]

lemma request_forget (s : Live (π × List Text)) (token input : Text) (limit : Duration) :
    s.forget.request system token input limit =
      (s.request system.noted token input limit).map id forget := by
  rw [request, request, send_forget]
  obtain ⟨written, s'⟩ := s.send system.noted input
  cases written with
  | ok => simp only [collect, Prod.map, apply_ite forget]; rfl
  | brokenPipe => rfl
  | failed cause => rfl

/-- A note changes nothing in a run. -/
lemma run_forget (s : Live (π × List Text)) (statements : List Text) (limit : Duration) :
    s.forget.run system owner statements limit =
      (s.run system.noted owner statements limit).map id forget := by
  by_cases h : s.alive = true
  · rw [run, run, if_pos h, if_pos (show s.forget.alive = true from h), discardPending_forget]
    obtain ⟨isOpen, s'⟩ := s.discardPending system.noted
    cases isOpen with
    | false => rfl
    | true => exact request_forget system { s' with runs := s'.runs + 1 } _ _ limit
  · rw [run, run, if_neg h, if_neg (show ¬ s.forget.alive = true from h)]
    rfl

/-- The sessions with and without a note go through the same calls alike. -/
lemma calls_forget (s : Live (π × List Text)) (cs : List Call) :
    s.forget.calls system owner cs = (s.calls system.noted owner cs).map id forget := by
  induction cs generalizing s with
  | nil => rfl
  | cons c cs ih =>
    cases c with
    | run statements limit =>
      simp only [calls, call, run_forget, Prod.map, id, ih]
    | shutdown =>
      have hshutdown : s.forget.shutdown system = (s.shutdown system.noted).forget := by
        simp only [shutdown, apply_ite forget]
        rfl
      simp only [calls, call, hshutdown, Prod.map, id, ih]

/-- An input that is open takes all that is sent, whatever becomes of it. -/
lemma request_note {s : Live (π × List Text)} (ho : s.inputOpen = true) (token input : Text)
    (limit : Duration) :
    (s.request system.noted token input limit).2.process.2 = s.process.2 ++ [input] := by
  rw [request, send, if_pos ho]
  dsimp only [System.noted]
  cases (system.send s.process.1 input).1 with
  | ok =>
    dsimp only [collect]
    split <;> rfl
  | brokenPipe => rfl
  | failed cause => rfl

/-- A run writes its input once, or nothing if one of the streams was closed before. -/
lemma sent_run (hs : s.alive = true) (ho : s.inputOpen = true) (statements : List Text)
    (limit : Duration) : s.sent system owner [.run statements limit] =
      if (discarded (system.leftOver s.process).events).2 then
        [inputFor s.spec (tokenFor owner (s.runs + 1)) statements]
      else [] := by
  have hnoting : s.noting.alive = true := hs
  dsimp only [sent, calls, call]
  rw [run, if_pos hnoting]
  dsimp only [discardPending, System.noted, noting]
  cases (discarded (system.leftOver s.process).events).2 with
  | false => rfl
  | true => exact request_note system ho _ _ limit

variable {system owner} in
/-- Whatever was asked of a session since it has started, it has an input exactly as long as it is
alive, and it is alive after a run if and only if the run was answered with a complete output. When
it is not alive, it refuses all runs that follow and writes nothing, and no call changes it. -/
theorem calls_lifetime {s₀ : Live π} (hstart : start system owner spec = .ok s₀)
    (before : List Call) :
    let s := (s₀.calls system owner before).2
    s.inputOpen = s.alive ∧
      (∀ statements limit, (s.run system owner statements limit).2.alive = true ↔
        ∃ r, (s.run system owner statements limit).1 = .ok r ∧ r.status = .ok) ∧
      (s.alive = false → ∀ later,
        s.calls system owner later = (later.map (Call.refused spec.language), s) ∧
          s.sent system owner later = []) := by
  intro s
  have horder : s.InOrder spec := (inOrder_of_start hstart).2.calls system owner before
  refine ⟨horder.inputOpen_eq, run_alive_iff system owner s, fun hs later => ⟨?_, ?_⟩⟩
  · rw [← horder.spec_eq]
    exact calls_of_not_alive system owner hs later
  · exact sent_of_not_alive system owner hs later

end Live

/-- Processes that say what their script holds for each run. -/
def System.ofScript (script : List (List Event)) : System (List (List Event)) where
  launch _ _ := .ok script
  leftOver p := ⟨[], fun _ => p⟩
  send p _ := (.ok, p)
  listen p _ := ⟨p.headD [], fun _ => p.tail⟩
  stop _ _ := []
  wait p _ := p

namespace Live

/-- The interpreter starts, gives one complete output, and closes its output in the next run. Two
more runs and two shutdowns find the session closed. -/
theorem calls_lifetime_crashed :
    let ready (run : Nat) : List Event :=
      [.data .out (toBytes ('\n' :: tokenFor 7 run ++ ['\n'])),
        .data .err (toBytes ('\n' :: tokenFor 7 run ++ ['\n']))]
    let system := System.ofScript [ready 1, ready 2, [.closed .out]]
    let run : Call := .run ["ls".toList] startLimit
    ∃ s₀ : Live (List (List Event)), start system 7 .shell = .ok s₀ ∧
      let s := (s₀.calls system 7 [run, run]).2
      s.alive = false ∧
        s.calls system 7 [run, .shutdown, run, .shutdown] =
          ([some (.error (.closed "shell")), none, some (.error (.closed "shell")), none], s) ∧
        s.sent system 7 [run, .shutdown, run, .shutdown] = [] := by
  intro ready system run
  have hstart : start system 7 .shell = .ok ⟨.shell, [ready 2, [.closed .out]], true, true, 1⟩ := by
    cbv
  refine ⟨_, hstart, ?_⟩
  have halive : (calls system 7 ⟨.shell, [ready 2, [.closed .out]], true, true, 1⟩
      [run, run]).2.alive = false := by cbv
  exact ⟨halive, (calls_lifetime hstart [run, run]).2.2 halive [run, .shutdown, run, .shutdown]⟩

end Live
end Exemplar.Session
