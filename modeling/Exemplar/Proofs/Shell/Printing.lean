import Exemplar.Proofs.Shell.Reading
import Exemplar.Shell.Evaluation

/-!
# Printing the token

As long as nothing stands between the shell and its two outputs, the command of the sentinel prints
the token on one after the other. Each takes a small step of time, and what later commands see of
the shell stays as it was.
-/
namespace Exemplar.Shell

/-- What the sentinel prints on a stream. -/
def sentinelOutput (token : Text) : Text := '\n' :: token ++ ['\n']

namespace Format

lemma direct_text (arg : Text) (args pieces complaints : List Text) (failure : Option Text)
    (ended : Bool) :
    direct ⟨[], 0, none, 's'⟩ ⟨pieces, complaints, failure, ended, arg :: args⟩ =
      some ⟨arg :: pieces, complaints, failure, ended, args⟩ := by
  simp [direct, Directive.pad, Directive.has, Printed.add, Printed.next]

lemma print_sentinel (token : Text) :
    print sentinelFormat [token] = ⟨[['\n'], token, ['\n']], [], none, false, []⟩ := by
  have hescape : escape ['n', '%', 's', '\\', 'n'] = ('\n', ['%', 's', '\\', 'n']) := by decide
  have hlast : escape ['n'] = ('\n', []) := by decide
  have hcount : ∀ p, count ['s', '\\', 'n'] p = (none, ['s', '\\', 'n'], p) := fun p => rfl
  simp [print, printFrom, sentinelFormat, once, hescape, hlast, hcount, direct_text, Printed.add]

end Format

namespace Glob
open Range (Marked)

/-- A character that stands for itself in a pattern. -/
def IsLiteral (x : Char × Bool) : Prop := isNameChar x.1 = true ∨ x.2 = true

lemma resolved_eq_self {marked : Marked} (h : ∀ x ∈ marked, IsLiteral x) :
    resolved marked = marked := by
  induction marked with
  | nil => rfl
  | cons x r ih =>
    rw [List.forall_mem_cons] at h
    cases r with
    | nil => rfl
    | cons y r =>
      have hx : ¬ (x.1 = '\\' ∧ x.2 = false) := by
        rintro ⟨hb, hq⟩
        have hn : isNameChar '\\' = false := by decide
        simpa [IsLiteral, hb, hq, hn] using h.1
      simpa [resolved, hx] using ih h.2

lemma isPattern_ofMarked {marked : Marked} (h : ∀ x ∈ marked, IsLiteral x) (n : Nat) :
    isPattern (ofMarked n marked) = false := by
  induction n generalizing marked with
  | zero => rfl
  | succ n ih =>
    cases marked with
    | nil => rfl
    | cons x marked =>
      obtain ⟨c, quoted⟩ := x
      rw [List.forall_mem_cons] at h
      have hstep : ofMarked (n + 1) ((c, quoted) :: marked) = .char c :: ofMarked n marked := by
        rcases h.1 with hc | hq
        · have hne := fun d => ne_of_isNameChar (d := d) hc
          simp [ofMarked, hne '*' (by decide), hne '?' (by decide), hne '[' (by decide)]
        · simp_all [ofMarked]
      rw [hstep]
      exact ih h.2

/-- Quoted characters and characters of names form no pattern. -/
lemma isPattern_parse {marked : Marked} (h : ∀ x ∈ marked, IsLiteral x) :
    isPattern (parse marked) = false := by
  rw [parse, resolved_eq_self h]
  exact isPattern_ofMarked h _

end Glob

namespace Field

/-- Characters of a script are never split. -/
lemma foldl_fixed (separators : Text) (quoted : Bool) (t : Text) (g : Growing) :
    (t.map (Atom.fixed quoted)).foldl (Growing.step separators) g =
      { g with field := (t.map fun c => (c, quoted)).reverse ++ g.field } := by
  induction t generalizing g with
  | nil => rfl
  | cons c t ih => simp [ih, Growing.step, Growing.add]

lemma split_fixed (separators : Text) (quoted : Bool) {t : Text} (hne : t ≠ []) :
    split separators none (t.map (Atom.fixed quoted)) = [t.map fun c => (c, quoted)] := by
  rw [split, foldl_fixed]
  simp [Growing.start, Growing.fields, Growing.isEmpty, Growing.finish, Growing.clear, hne]

lemma split_mark (separators : Text) (t : Text) :
    split separators none (.mark :: t.map (Atom.fixed true)) = [t.map fun c => (c, true)] := by
  rw [split, List.foldl_cons, foldl_fixed]
  simp [Growing.start, Growing.step, Growing.fields, Growing.isEmpty, Growing.finish, Growing.clear]

end Field

namespace Expansion
variable {run : Runner} {s : State}

/-- A field without a pattern is the only name it stands for. -/
lemma names_literal {field : Range.Marked} (h : ∀ x ∈ field, Glob.IsLiteral x) :
    names s field = [field.map Prod.fst] := by
  simp [names, Glob.isPattern_parse h]

lemma fieldsOf_name (hs : s.flow = .next) {t : Text} (hne : t ≠ [])
    (ht : ∀ c ∈ t, isNameChar c = true) : fieldsOf run s [.literal false t] = ([t], s) := by
  have htilde : tilde s [.literal false t] = [.literal false t] := by
    obtain ⟨c, t, rfl⟩ := List.exists_cons_of_ne_nil hne
    have hc : c ≠ '~' := ne_of_isNameChar (ht c List.mem_cons_self) (by decide)
    simp [tilde, tildeText, hc]
  have hword : word run .fields s [.literal false t] = (t.map (Atom.fixed false), s) := by
    simp [word, each, State.goesOn, hs, depth, piece]
  have hnames : names s (t.map fun c => (c, false)) = [t] := by
    rw [names_literal (by simpa [Glob.IsLiteral] using ht)]
    simp [Function.comp_def]
  rw [fieldsOf, htilde, hword]
  simp [State.goesOn, hs, Field.split_fixed _ _ hne, hnames]

lemma fieldsOf_quotes (hs : s.flow = .next) (t : Text) :
    fieldsOf run s [.mark, .literal true t] = ([t], s) := by
  have hword : word run .fields s [.mark, .literal true t] =
      (.mark :: t.map (Atom.fixed true), s) := by
    simp [word, each, State.goesOn, hs, depth, piece]
  have hnames : names s (t.map fun c => (c, true)) = [t] := by
    rw [names_literal (by simp [Glob.IsLiteral])]
    simp [Function.comp_def]
  have htilde : tilde s [.mark, .literal true t] = [.mark, .literal true t] := rfl
  rw [fieldsOf, htilde, hword]
  simp [State.goesOn, hs, Field.split_mark, hnames]

end Expansion

namespace State

/-- A state in which nothing comes between a command that prints and the outputs of the session. -/
structure Quiet (s : State) : Prop where
  flow : s.flow = .next
  functions : s.functions.lookup printer = none
  xtrace : s.isOn .xtrace = false
  out : s.channel 1 = some (.output .out)
  err : s.channel 2 = some (.output .err)
  due : s.due = []
  signals : s.world.signals = []
  coming : s.world.coming = []

/-- The state with something written to an output of the session. -/
def written (stream : Session.Stream) (t : Text) (s : State) : State :=
  { s with world := { s.world with
    writes := ⟨s.world.now, s.job, stream, t⟩ :: s.world.writes } }

/-- The state after a command on a line has printed the token. -/
def printed (line : Nat) (stream : Session.Stream) (token : Text) (s : State) : State :=
  { s with
    line
    status := 0
    innerStatus := 0
    inPlace := false
    world := { s.world with
      now := s.world.now + smallCost
      writes := ⟨s.world.now + smallCost, s.job, stream, sentinelOutput token⟩ ::
        s.world.writes } }

lemma out_eq_written {s : State} (hs : s.flow = .next) {stream : Session.Stream}
    (hc : s.channel 1 = some (.output stream)) {t : Text} (ht : t ≠ []) :
    s.out t = s.written stream t := by
  simp [out, write, hc, writeTo, ht, hs, written]

namespace Quiet
variable {s : State} (hq : s.Quiet)
include hq

lemma goesOn : s.goesOn = true := by simp [State.goesOn, hq.flow]

/-- Nothing else happens while time passes. -/
lemma spend {n : Nat} (hn : s.world.now + n < s.world.horizon) :
    s.spend n = { s with world := { s.world with now := s.world.now + n } } := by
  simp [State.spend, World.catchUp, hq.coming, notice, hq.signals, Nat.not_le.2 hn]

lemma printed (line : Nat) (stream : Session.Stream) (token : Text) :
    (s.printed line stream token).Quiet :=
  ⟨hq.flow, hq.functions, hq.xtrace, hq.out, hq.err, hq.due, hq.signals, hq.coming⟩

end Quiet

end State

/-- The fields of the command that prints a token. -/
def printingCall (token : Text) : Call :=
  ⟨[printer, sentinelFormat, token], [], 0, true, false, false, true, false⟩

namespace Builtin

lemma isBuiltin_printer : isBuiltin printer = true := by decide

lemma printf_sentinel (token : Text) (s : State) :
    printf [sentinelFormat, token] s = (s.out (sentinelOutput token)).withStatus 0 := by
  have hoptions : optionsOf "" [sentinelFormat, token] = .ok ⟨[], [sentinelFormat, token]⟩ := rfl
  simp [printf, withOptions, hoptions, Format.print_sentinel, Format.Printed.text, sentinelOutput]

end Builtin

namespace Call
variable {run : Expansion.Runner} {s : State}

/-- The name is that of a command of the shell, and not of a special one. -/
lemma identify_printer (hf : s.functions.lookup printer = none) {c : Call} (hc : c.name = printer)
    (n : Nat) : identify run (n + 1) true c s =
      (false, { c with special := false, isLocal := true, keeps := false }, s) := by
  have hspecial : Builtin.isSpecialCommand printer = false := by decide
  have hassign : Builtin.takesAssignments printer = false := by decide
  have hexec : decide (printer = "exec".toList) = false := by decide
  have hcommand : printer ≠ "command".toList := by decide
  simp only [identify, hc, hf, Builtin.isBuiltin_printer, hspecial, hassign, hexec, if_pos hcommand,
    Option.isSome_none, Bool.and_false, Bool.not_true, Bool.or_false, Bool.false_eq_true, if_false,
    if_true, Bool.not_false]

lemma read_printing (hs : s.flow = .next) (hf : s.functions.lookup printer = none) {token : Text}
    (hne : token ≠ []) (ht : ∀ c ∈ token, isNameChar c = true) :
    read run [[.literal false printer], [.mark, .literal true sentinelFormat],
      [.literal false token]] s = (printingCall token, s) := by
  have hprinter : Expansion.fieldsOf run s [.literal false printer] = ([printer], s) :=
    Expansion.fieldsOf_name hs (by decide) (List.all_eq_true.1 (by decide))
  simp [read, fill, hprinter, State.goesOn, hs, identify_printer hf, name, printingCall,
    Expansion.fieldsOf_quotes hs, Expansion.fieldsOf_name hs hne ht]

lemma trace_eq_self (hs : s.isOn .xtrace = false) (shown : List Text) : trace run shown s = s := by
  simp [trace, hs]

end Call

namespace Opening

/-- With its redirections, a command prints on the stream they are for. -/
lemma tieAll_printingOn (run : Expansion.Runner) {s : State} (hq : s.Quiet)
    (stream : Session.Stream) :
    ∃ os channels, Target.openings run (printingOn stream) s = (os, s) ∧
      tieAll run os s = { s with channels } ∧ channels.lookup 1 = some (.output stream) := by
  cases stream with
  | out =>
    refine ⟨[], s.channels, rfl, ?_, hq.out⟩
    cases s
    rfl
  | err =>
    refine ⟨[(1, .copy 2)], (1, .output .err) :: s.channels.filter fun e => e.1 ≠ 1, ?_, ?_,
      by simp⟩
    · simp [printingOn, Target.openings, Target.opening, hq.goesOn]
    · simp [tieAll, hq.goesOn, tie, hq.err, State.setChannel]

end Opening

namespace Evaluation

section
variable {s : State} (hs : s.flow = .next) {stream : Session.Stream}
  (hc : s.channel 1 = some (.output stream))
include hs hc

lemma builtin_printer (token : Text) (tested : Bool) (n : Nat) :
    builtin (n + 1) tested printer [sentinelFormat, token] s =
      (s.written stream (sentinelOutput token)).withStatus 0 := by
  have hfind : Builtin.find? printer = some Builtin.printf := rfl
  have hname : String.ofList printer = "printf" := by decide
  have hwrite : s.canWrite 1 = true := by simp [State.canWrite, hc, State.takes]
  rw [← State.out_eq_written hs hc (by simp [sentinelOutput]), builtin.eq_def]
  simp [hname, hfind, hwrite, Builtin.printf_sentinel]

lemma invoke_printer (hf : s.functions.lookup printer = none) (token : Text) (tested : Bool)
    (n : Nat) : invoke (n + 2) tested (printingCall token) s =
      ({ s with inPlace := false }.written stream (sentinelOutput token)).withStatus 0 := by
  let named : State := { s with command := some printer, inPlace := false }
  have hname : (printingCall token).name = printer := rfl
  have harguments : (printingCall token).arguments = [sentinelFormat, token] := rfl
  have hprint : builtin (n + 1) tested printer [sentinelFormat, token] named =
      (named.written stream (sentinelOutput token)).withStatus 0 :=
    builtin_printer (s := named) hs hc token tested n
  have hkill : printer ≠ "kill".toList := by decide
  rw [invoke.eq_def]
  simp only [hname, harguments, hf, ite_self, Builtin.isBuiltin_printer, hprint, Bool.not_true,
    Bool.false_eq_true, if_false, if_neg hkill, named]
  simp [State.written, State.withStatus, hs]

end

variable {s : State} (hq : s.Quiet)
include hq

/-- The command reads its words, ties its stream and writes, and lets go of all it kept. -/
lemma simple_printing (hn : s.world.now + State.smallCost < s.world.horizon) {token : Text}
    (hne : token ≠ []) (ht : ∀ c ∈ token, isNameChar c = true) (stream : Session.Stream)
    (tested : Bool) (n : Nat) :
    simple (n + 3) tested [] [[.literal false printer], [.mark, .literal true sentinelFormat],
      [.literal false token]] (printingOn stream) s = s.printed s.line stream token := by
  let calm : State := { s with innerStatus := 0 }
  let begun : State := { calm with
    world := { calm.world with now := calm.world.now + State.smallCost } }
  let framed : State := { begun with saved := [] :: begun.saved }
  have hcalm : calm.Quiet :=
    ⟨hq.flow, hq.functions, hq.xtrace, hq.out, hq.err, hq.due, hq.signals, hq.coming⟩
  have hframed : framed.Quiet :=
    ⟨hq.flow, hq.functions, hq.xtrace, hq.out, hq.err, hq.due, hq.signals, hq.coming⟩
  have hspend : State.spend State.smallCost { s with innerStatus := 0 } = begun := hcalm.spend hn
  have hread : Call.read (substitute (n + 2)) [[.literal false printer],
      [.mark, .literal true sentinelFormat], [.literal false token]] begun =
        (printingCall token, begun) :=
    Call.read_printing (s := begun) hq.flow hq.functions hne ht
  obtain ⟨os, channels, hopen, htie, hchannel⟩ :=
    Opening.tieAll_printingOn (substitute (n + 2)) hframed stream
  obtain ⟨tied, htied⟩ : ∃ tied : State, { framed with channels } = tied := ⟨_, rfl⟩
  rw [htied] at htie
  have hflow : tied.flow = .next := by rw [← htied]; exact hq.flow
  have hassign : ∀ c, Call.assignAll (substitute (n + 2)) c [] tied = ([], tied) := fun c => rfl
  have htrace : ∀ shown, Call.trace (substitute (n + 2)) shown
      { tied with channels := begun.channels } = { tied with channels := begun.channels } :=
    Call.trace_eq_self (by rw [← htied]; exact hq.xtrace)
  have hinvoke : invoke (n + 2) tested (printingCall token) tied =
      ({ tied with inPlace := false }.written stream (sentinelOutput token)).withStatus 0 :=
    invoke_printer hflow (by rw [← htied]; exact hchannel) (by rw [← htied]; exact hq.functions)
      token tested n
  have hgo : begun.goesOn = true ∧ tied.goesOn = true := by
    simp [State.goesOn, hflow, begun, calm, hq.flow]
  have herror : (tied.flow == .error) = false := by rw [hflow]; rfl
  have hlocal : (printingCall token).isLocal = true := rfl
  have hkeeps : (printingCall token).keeps = false := rfl
  have hfields : (printingCall token).fields = [printer, sentinelFormat, token] := rfl
  rw [simple.eq_def]
  simp only [hspend, hread, hgo.1, hlocal, Bool.not_true, Bool.false_eq_true, if_false, if_true]
  rw [show ({ begun with saved := [] :: begun.saved } : State) = framed from rfl]
  simp only [hopen, hframed.goesOn, htie, herror, hgo.2, hassign, Bool.not_true, Bool.false_eq_true,
    if_false]
  simp only [htrace]
  -- a state is not by definition what is put together from its own parts
  cases tied
  simp only [hfields, hinvoke, List.isEmpty_cons, hkeeps, Bool.false_eq_true, if_false]
  cases htied
  simp [Call.unwind, State.withStatus, State.written, State.printed, framed, begun, calm]

/-- A command that succeeds leaves nothing to be answered or checked. -/
lemma run_printing (hn : s.world.now + State.smallCost < s.world.horizon) {token : Text}
    (hne : token ≠ []) (ht : ∀ c ∈ token, isNameChar c = true) (line : Nat)
    (stream : Session.Stream) (tested : Bool) (n : Nat) :
    run (n + 4) tested (printing line token stream) s = s.printed line stream token := by
  have hline : State.Quiet { s with line } :=
    ⟨hq.flow, hq.functions, hq.xtrace, hq.out, hq.err, hq.due, hq.signals, hq.coming⟩
  have hsimple := simple_printing hline hn hne ht stream tested n
  have hprinted : State.printed line stream token { s with line } = s.printed line stream token :=
    rfl
  have hgo : (s.printed line stream token).goesOn = true := (hq.printed line stream token).goesOn
  have hanswer : answer (n + 3) (s.printed line stream token) = s.printed line stream token := by
    have hdue : (s.printed line stream token).due = [] := hq.due
    rw [answer.eq_def]
    simp [hgo, hdue]
  rw [run.eq_def]
  simp only [hq.goesOn, printing, Bool.not_true, Bool.false_eq_true, if_false, hsimple, hprinted,
    hanswer]
  simp [checked, State.printed]

/-- The sentinel prints the token on both outputs. -/
theorem run_sentinel (hn : s.world.now + 2 * State.smallCost < s.world.horizon) {token : Text}
    (hne : token ≠ []) (ht : ∀ c ∈ token, isNameChar c = true) (line : Nat) (tested : Bool)
    (n : Nat) : run (n + 5) tested (sentinelCommand line token) s =
      (s.printed line .out token).printed line .err token := by
  have hn1 : (s.printed line .out token).world.now + State.smallCost <
      (s.printed line .out token).world.horizon := by
    simp only [State.printed]
    omega
  have hfirst := run_printing hq (by omega) hne ht line .out tested n
  have hsecond := run_printing (hq.printed line .out token) hn1 hne ht line .err tested n
  rw [sentinelCommand, run.eq_def]
  simp only [hq.goesOn, Bool.not_true, Bool.false_eq_true, if_false, hfirst, hsecond]

end Evaluation

end Exemplar.Shell
