import Exemplar.Proofs.Shell.Answering

/-!
# Sessions with a shell

Between two runs of a session its shell is at rest. It starts at rest, and a run that finds it at
rest answers what the statements wrote and leaves it at rest.
-/
namespace Exemplar.Shell.Running

/-- A process that has been sent the input of the next run. -/
def given (p : Running) (input : Text) : Running :=
  { p with now := p.now + pauseTime }.receive (inBytes input)

section
variable (tree : Files.Tree) (owner number : Nat) {live : Session.Live Running}
  (hs : live.alive = true) (ho : live.inputOpen = true) (hrest : live.process.AtRest)
  {token : Text} (htoken : token = Session.tokenFor number (live.runs + 1))
  (hlen : token.length + 30 < Parse.most) {limit : Duration} {statements : List Text}
include hs ho hrest htoken hlen

/-- If the shell of a session is at rest and carries out the statements of a run, the answer is what
they wrote, and the shell is at rest again. -/
theorem run_carries {r : Reader} {s : State} {new : List Write}
    (hc : (live.process.given (Session.inputFor live.spec token statements)).Carries limit token r
      s new)
    (hout : ¬ Text.toBytes token <:+: Write.bytesOn .out new.reverse)
    (herr : ¬ Text.toBytes token <:+: Write.bytesOn .err new.reverse) :
    ∃ p : Running, p.AtRest ∧
      live.run (system tree owner) number statements limit =
        (.ok ⟨live.spec.stripPrompts (Session.joinStreams
            (Text.ofBytes (Write.bytesOn .out new.reverse))
            (Text.ofBytes (Write.bytesOn .err new.reverse))), .ok⟩,
          { live with process := p, runs := live.runs + 1 }) := by
  obtain ⟨r₀, htask, -, -⟩ := hrest.task
  let paused : Running := { live.process with now := live.process.now + pauseTime }
  let sent : Running := live.process.given (Session.inputFor live.spec token statements)
  have hdiscard : live.discardPending (system tree owner) =
      (true, { live with process := paused }) := by
    have hleft : (system tree owner).leftOver live.process = ⟨[], fun n =>
        { paused with taken := paused.taken + n, pending := paused.pending.drop n }⟩ := by
      simp [system, leftOver, hrest.pending, paused]
    simp [Session.Live.discardPending, hleft, Session.discarded, paused]
  have hover : paused.isOver = false := by
    simp [isOver, endOf, paused, hrest.ended, hrest.ready.killed]
  have hsend : (system tree owner).send paused (Session.inputFor live.spec token statements) =
      (.ok, sent) := by
    simp [system, send, hover, sent, given, paused]
  have htaken : sent.taken = sent.state.world.writes.length := by
    simp [sent, given, receive, htask, hrest.taken]
  subst htoken
  obtain ⟨p, hp, hcollect⟩ := collect_carries tree owner
    { live with process := sent, runs := live.runs + 1 } hc htaken hlen hout herr
  refine ⟨p, hp, ?_⟩
  rw [Session.Live.run, if_pos hs, hdiscard]
  simp only [Session.Live.request, Session.Live.send, if_pos ho, hsend, hcollect]

end

/-- Characters of a script that are sent as they are. -/
def IsSent (t : Text) : Prop := ∀ c ∈ t, c.toNat < 128 ∧ c ≠ '\x00'

/-- What is sent of such characters reaches the script as it is. -/
lemma IsSent.scriptText_inBytes {t : Text} (h : IsSent t) : scriptText (inBytes t) = t := by
  have hascii : Text.IsAscii t := fun c hc => (h c hc).1
  have hbytes : inBytes t = t := by
    rw [inBytes, Text.toBytes_eq_map hascii, List.map_map]
    refine (List.map_congr_left fun c hc => ?_).trans (List.map_id t)
    rw [Function.comp_apply, Text.toNat_ofNat_ascii (hascii c hc), Char.ofNat_toNat, id]
  rw [hbytes, scriptText, List.filter_eq_self]
  intro c hc
  simpa using (h c hc).2

lemma isSent_append {s t : Text} : IsSent (s ++ t) ↔ IsSent s ∧ IsSent t := by
  simp only [IsSent, List.forall_mem_append]

/-- The line of the sentinel is sent as it is. -/
lemma isSent_sentinel {token : Text} (ht : Session.IsToken token)
    (hname : ∀ d ∈ token, isNameChar d = true) :
    IsSent (Session.Spec.shell.sentinelFor token ++ ['\n']) := by
  have htoken : IsSent token := fun c hc =>
    ⟨ht.isAscii c hc, ne_of_isNameChar (hname c hc) (by decide)⟩
  have hfixed : ∀ t : Text, t.all (fun c => decide (c.toNat < 128) && c != '\x00') = true →
      IsSent t := fun t h c hc => by simpa using List.all_eq_true.1 h c hc
  have hprinted : IsSent (Grammar.printedText token) := by
    have hbegin : IsSent (" '\\n%s\\n' ".toList ++ token) :=
      isSent_append.2 ⟨hfixed _ (by decide), htoken⟩
    simpa [Grammar.printedText, Grammar.printedWords, sentinelFormat] using hbegin
  have hdivider : IsSent [';', ' '] := hfixed _ (by decide)
  have hline : IsSent (printer ++ Grammar.printedText token ++ [';', ' '] ++ printer ++
      Grammar.printedText token ++ " >&2\n".toList) := by
    simp only [isSent_append]
    exact ⟨⟨⟨⟨⟨hfixed _ (by decide), hprinted⟩, hdivider⟩, hfixed _ (by decide)⟩, hprinted⟩,
      hfixed _ (by decide)⟩
  simpa [sentinelFor_shell] using hline

/-- A process that goes on is as ready as it was. -/
lemma ready_awake {p : Running} (h : p.state.Ready) (last : Nat) : (p.awake last).Ready :=
  ⟨⟨h.flow, h.functions, h.xtrace, h.out, h.err, h.due, h.signals, h.coming⟩, h.verbose, h.noexec,
    h.aliases, h.closed, h.killed, h.ordered, fun w hw => (h.past w hw).trans (le_max_left _ _)⟩

section
variable {p : Running} (h : p.AtRest)
include h

/-- A shell at rest that is sent nothing but the sentinel has no statements to carry out. -/
theorem AtRest.carries {spec : Session.Spec}
    (hsentinel : spec.sentinel = Session.Spec.shell.sentinel) (hterminator : spec.terminator = none)
    (process run : Nat) {limit : Duration} (hlimit : 2 * State.smallCost < limit.nanoseconds) :
    ∃ r s, (p.given (Session.inputFor spec (Session.tokenFor process run) [])).Carries limit
      (Session.tokenFor process run) r s [] := by
  obtain ⟨r, htask, hwaits, hnone⟩ := h.task
  have hinput : Session.inputFor spec (Session.tokenFor process run) [] =
      Session.Spec.shell.sentinelFor (Session.tokenFor process run) ++ ['\n'] := by
    simp [Session.inputFor, hterminator, Session.Spec.sentinelFor, hsentinel]
  have hsent := (isSent_sentinel (Session.isToken_tokenFor process run)
    (isNameChar_tokenFor process run)).scriptText_inBytes
  have hle : p.state.world.now ≤ p.now + pauseTime := h.time.trans (Nat.le_add_right _ _)
  let more := inBytes (Session.Spec.shell.sentinelFor (Session.tokenFor process run) ++ ['\n'])
  let sent : Running := { p with now := p.now + pauseTime, task := .commands (r.append more) }
  have hgiven : p.given (Session.inputFor spec (Session.tokenFor process run) []) = sent := by
    simp [hinput, given, receive, htask, more, sent]
  have hstate : sent.state.Ready := h.ready
  have hready : (sent.awake (sent.now + limit.nanoseconds)).Ready := ready_awake hstate _
  have hnow : (sent.awake (sent.now + limit.nanoseconds)).world.now = sent.now :=
    max_eq_right hle
  rw [hgiven]
  exact ⟨r.append more, sent.awake (sent.now + limit.nanoseconds),
    { commands := ⟨_, rfl, .refl _ _⟩
      waits := ⟨hwaits.segments, hwaits.closed, hwaits.afterBlank, hwaits.ending⟩
      rest := by simp [Reader.append, hnone, more, hsent]
      ready := hready
      writes := rfl
      horizon := rfl
      inTime := by
        rw [hnow]
        exact Nat.add_lt_add_left hlimit sent.now }⟩

end

section
variable (tree : Files.Tree) (owner number : Nat) {live : Session.Live Running}
  (hs : live.alive = true) (ho : live.inputOpen = true) (hrest : live.process.AtRest)
  (hsentinel : live.spec.sentinel = Session.Spec.shell.sentinel)
  (hterminator : live.spec.terminator = none)
  (hlen : (Session.tokenFor number (live.runs + 1)).length + 30 < Parse.most) {limit : Duration}
  (hlimit : 2 * State.smallCost < limit.nanoseconds)
include hs ho hrest hsentinel hterminator hlen hlimit

/-- A run without statements answers nothing. -/
theorem run_nil : ∃ p : Running, p.AtRest ∧
    live.run (system tree owner) number [] limit =
      (.ok ⟨[], .ok⟩, { live with process := p, runs := live.runs + 1 }) := by
  obtain ⟨r, s, hc⟩ := hrest.carries hsentinel hterminator number (live.runs + 1) hlimit
  have hnone : ∀ stream, ¬ Text.toBytes (Session.tokenFor number (live.runs + 1)) <:+:
      Write.bytesOn stream [].reverse := by
    intro stream hsub
    have ht := Session.isToken_tokenFor number (live.runs + 1)
    have hempty := List.infix_nil.1 hsub
    rw [Text.toBytes_eq_map ht.isAscii, List.map_eq_nil_iff] at hempty
    exact ht.ne_nil hempty
  obtain ⟨p, hp, hrun⟩ := run_carries tree owner number hs ho hrest rfl hlen hc (hnone .out)
    (hnone .err)
  refine ⟨p, hp, hrun.trans ?_⟩
  have hjoined : Session.joinStreams (Text.ofBytes (Write.bytesOn .out [].reverse))
      (Text.ofBytes (Write.bytesOn .err [].reverse)) = [] := by
    have hbytes : ∀ stream, Write.bytesOn stream [].reverse = [] := fun stream => rfl
    simp only [hbytes, Text.ofBytes_nil]
    decide
  have hstrip : live.spec.stripPrompts [] = [] := by
    simp [Session.Spec.stripPrompts, Text.splitInclusive]
  rw [hjoined, hstrip]

end

section
variable {tree : Files.Tree} {owner : Nat} {p : Running} {s : State} {args : List Text}

lemma execute_eq_taskOf {path : Text} (h : execute s path args = .ok p) :
    ∃ name, p = ⟨(taskOf name args s).1, (taskOf name args s).2, [], 0, none, 0, []⟩ := by
  rw [execute] at h
  split at h
  · cases h
  · dsimp only at h
    split_ifs at h
    exact ⟨_, (Except.ok.inj h).symm⟩
  · cases h

lemma exists_execute_of_search {name : Text} {denied : Bool} {ds : List Text}
    (h : search s name args denied ds = .ok p) : ∃ path, execute s path args = .ok p := by
  induction ds generalizing denied with
  | nil => cases h
  | cons d ds ih =>
    rw [search] at h
    split at h
    · rename_i hexecute
      exact ⟨_, hexecute.trans h⟩
    · exact ih h
    · exact ih h
    · exact ih h
    · cases h

/-- A program that is found is started with its task. -/
lemma launch_eq_taskOf {program : String} (h : launch tree owner program [] = .ok p) :
    ∃ name path, p = ⟨(taskOf name [] (initial tree owner path)).1,
      (taskOf name [] (initial tree owner path)).2, [], 0, none, 0, []⟩ := by
  obtain ⟨path, hexecute⟩ : ∃ path,
      execute (initial tree owner (inBytes program.toList)) path [] = .ok p := by
    simp only [launch, List.map_nil] at h
    split_ifs at h
    · exact ⟨_, h⟩
    · exact exists_execute_of_search h
  obtain ⟨name, hp⟩ := execute_eq_taskOf hexecute
  exact ⟨name, _, hp⟩

/-- A shell that is started without arguments is at rest. -/
theorem launch_atRest {program : String} (h : launch tree owner program [] = .ok p) {r : Reader}
    (hr : p.task = .commands r) : p.AtRest := by
  obtain ⟨name, path, rfl⟩ := launch_eq_taskOf h
  by_cases hshell : name ∈ Evaluation.shells
  · have htask : taskOf name [] (initial tree owner path) =
        (.commands (Reader.ofText [] 1 false),
          (initial tree owner path).asShell ⟨.input, path, [], [.stdin], false⟩) := by
      have hread : Start.ofArguments path [] = .ok ⟨.input, path, [], [.stdin], false⟩ := rfl
      have hname : (initial tree owner path).name = path := rfl
      simp [taskOf, hshell, hname, hread]
    rw [htask]
    have hpast : ∀ w ∈ (world tree).writes, w.time ≤ (world tree).now := List.forall_mem_nil _
    exact
      { task := ⟨_, rfl, ⟨rfl, rfl, rfl, rfl⟩, rfl⟩
        ready := ⟨⟨rfl, rfl, rfl, rfl, rfl, rfl, rfl, rfl⟩, rfl, rfl, rfl, rfl, rfl, .nil, hpast⟩
        time := le_rfl
        taken := rfl
        pending := rfl
        ended := rfl }
  · have htask : taskOf name [] (initial tree owner path) =
        (.program name [], initial tree owner path) := by
      simp [taskOf, hshell]
    rw [htask] at hr
    cases hr

end

/-- A session with a shell starts, and its shell is at rest before the first run. -/
theorem start_atRest {tree : Files.Tree} {owner number : Nat} {spec : Session.Spec} {p : Running}
    {r : Reader} (hsentinel : spec.sentinel = Session.Spec.shell.sentinel)
    (hterminator : spec.terminator = none) (hinit : spec.init = []) (hargs : spec.args = [])
    (hlen : (Session.tokenFor number 1).length + 30 < Parse.most)
    (hp : launch tree owner spec.program [] = .ok p) (hr : p.task = .commands r) :
    ∃ q : Running, q.AtRest ∧
      Session.Live.start (system tree owner) number spec = .ok ⟨spec, q, true, true, 1⟩ := by
  have hlaunch : (system tree owner).launch spec.program spec.args = .ok p := by
    rw [hargs]
    exact hp
  have hlimit : 2 * State.smallCost < Session.startLimit.nanoseconds := by decide
  let fresh : Session.Live Running := ⟨spec, p, true, true, 0⟩
  have halive : fresh.alive = true := rfl
  obtain ⟨q, hq, hrun⟩ := run_nil tree owner number halive rfl (launch_atRest hp hr) hsentinel
    hterminator hlen hlimit
  refine ⟨q, hq, ?_⟩
  simp only [fresh] at hrun
  simp only [Session.Live.start, hlaunch, hinit, hrun, if_true]

end Exemplar.Shell.Running
