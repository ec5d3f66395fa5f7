import Exemplar.Shell.Condition

/-!
# Redirections

All words of redirections are expanded before the first stream is tied. A target that
cannot be opened is a refusal, which the caller may turn into a status.
-/
namespace Exemplar.Shell
open Text

/-- A target whose words are expanded. Documents are expanded when they are opened. -/
inductive Opening
  | file (mode : Mode) (path : Text)
  | copy (stream : Nat)
  | close
  | document (body : Word)

namespace Opening

/-- What the system says when a file cannot be opened. -/
def cause (missing : String) : Files.SystemError → String
  | .notFound => missing
  | .notADirectory => missing
  | .permissionDenied => "Permission denied"
  | .isADirectory => "Is a directory"
  | .nameTooLong => "File name too long"
  | .tooManyLinks => "Too many levels of symbolic links"
  | _ => "Invalid argument"

/-- The channel that leads to a device. -/
def device? (s : State) (path : Text) : Option (Except String Channel) :=
  match Condition.streamOf? path, String.ofList path with
  | some n, _ => some ((s.channel n).elim (.error "No such file") .ok)
  | none, "/dev/null" => some (.ok .null)
  | none, "/dev/zero" => some (.ok .zeros)
  | none, "/dev/random" => some (.ok .zeros)
  | none, "/dev/urandom" => some (.ok .zeros)
  | none, "/dev/full" => some (.ok .full)
  | none, "/dev/tty" => some (.error "No such device or address")
  | none, _ => none

/-- Open a file to be read. A directory can be opened and not be read. -/
def forReading (path : Text) (s : State) : Except String (Channel × State) :=
  match device? s path with
  | some (.ok c) => .ok (c, s)
  | some (.error e) => .error e
  | none =>
    match s.resolve path with
    | .ok ⟨place, .file bytes⟩ =>
      let (n, s) := s.addText (ofBytes bytes) (some place)
      .ok (.source n, s)
    | .ok r => .ok (.file r.place, s)
    | .error e => .error (cause "No such file" e)

/-- Open a file to be written, which makes it if it is not there. -/
def forWriting (truncates protects : Bool) (path : Text) (s : State) :
    Except String (Channel × State) :=
  match device? s path with
  | some (.ok c) => .ok (c, s)
  | some (.error e) => .error e
  | none =>
    match s.resolve path with
    | .ok ⟨_, .directory⟩ => .error "Is a directory"
    | .ok ⟨place, .file _⟩ =>
      if protects then .error "File exists"
      else .ok (.file place, if truncates then s.putFile place [] else s)
    | .ok _ => .ok (.null, s)
    | .error e =>
      match e, s.placeFor? path with
      | .notFound, some place =>
        .ok (.file place, if truncates then s.putFile place [] else s.createFile place)
      | .notFound, none =>
        .error (if path.getLast? = some '/' && (s.parentOf? path).isSome then "Is a directory"
          else "Directory nonexistent")
      | e, _ => .error (cause "Directory nonexistent" e)

def failed (verb : String) (path : Text) (message : String) (s : State) : State :=
  s.refuse (("cannot " ++ verb ++ " ").toList ++ path ++ (": " ++ message).toList)

/-- Tie a stream to its target. -/
def tie (run : Expansion.Runner) (stream : Nat) (o : Opening) (s : State) : State :=
  match o with
  | .close => s.closeChannel stream
  | .copy n =>
    if n = stream then s
    else match s.channel n with
      | some c => s.setChannel stream c
      | none => s.abandon (toString n ++ ": Bad file descriptor")
  | .document body =>
    let (t, s) := Expansion.document run s body
    if s.goesOn then
      let (n, s) := s.addText t none
      s.setChannel stream (.source n)
    else s
  | .file mode path =>
    let opened := match mode with
      | .read => forReading path s
      | .write => forWriting true (s.isOn .noclobber) path s
      | .force => forWriting true false path s
      | .append => forWriting false false path s
      | .both =>
        if stream ≠ 0 then forWriting false false path s
        else match forWriting false false path s with
          | .ok (.file _, s) => forReading path s
          | opened => opened
    match opened with
    | .ok (c, s) => s.setChannel stream c
    | .error message =>
      let isThere := mode = .write && s.isOn .noclobber && (s.resolve path).toOption.isSome
      let opens := mode = .read || (isThere && message ≠ "File exists")
      failed (if opens then "open" else "create") path message s

def tieAll (run : Expansion.Runner) (os : List (Nat × Opening)) (s : State) : State :=
  os.foldl (fun s o => if s.goesOn then tie run o.1 o.2 s else s) s

end Opening

namespace Target

def badNumber (s : State) : State :=
  { s with line := s.readLine }.abandon "Syntax error: Bad fd number"

/-- Expand the words of a target. -/
def opening (run : Expansion.Runner) (s : State) : Target → Opening × State
  | .file mode name => let (t, s) := Expansion.text run s name; (.file mode t, s)
  | .copy stream => (.copy stream, s)
  | .close => (.close, s)
  | .document body => (.document body, s)
  | .copyOf word =>
    let (t, s) := Expansion.text run s word
    match t with
    | [c] =>
      if c.isDigit then (.copy (c.toNat - '0'.toNat), s)
      else if c = '-' then (.close, s)
      else (.close, badNumber s)
    | _ => (.close, badNumber s)

/-- Expand the words of all targets. -/
def openings (run : Expansion.Runner) (rs : List Redirection) (s : State) :
    List (Nat × Opening) × State :=
  let x := rs.foldl (fun (x : List (Nat × Opening) × State) r =>
    if x.2.goesOn then
      let (o, s) := opening run x.2 r.2
      ((r.1, o) :: x.1, s)
    else x) ([], s)
  (x.1.reverse, x.2)

end Target

end Exemplar.Shell
