import Exemplar.Text.Basic

/-!
# Settings of the shell

Settings are switched on and off by name, and most of them by a letter.
-/
namespace Exemplar.Shell

inductive Setting
  | errexit
  | noglob
  | ignoreeof
  | interactive
  | monitor
  | noexec
  | stdin
  | xtrace
  | verbose
  | vi
  | emacs
  | noclobber
  | allexport
  | notify
  | nounset
  | privileged
  | nolog
  | debug
  deriving DecidableEq, Repr

namespace Setting

/-- All settings in the order in which they are listed. -/
def all : List Setting :=
  [errexit, noglob, ignoreeof, interactive, monitor, noexec, stdin, xtrace, verbose, vi, emacs,
    noclobber, allexport, notify, nounset, privileged, nolog, debug]

def name : Setting → String
  | errexit => "errexit"
  | noglob => "noglob"
  | ignoreeof => "ignoreeof"
  | interactive => "interactive"
  | monitor => "monitor"
  | noexec => "noexec"
  | stdin => "stdin"
  | xtrace => "xtrace"
  | verbose => "verbose"
  | vi => "vi"
  | emacs => "emacs"
  | noclobber => "noclobber"
  | allexport => "allexport"
  | notify => "notify"
  | nounset => "nounset"
  | privileged => "privileged"
  | nolog => "nolog"
  | debug => "debug"

def letter? : Setting → Option Char
  | errexit => some 'e'
  | noglob => some 'f'
  | ignoreeof => some 'I'
  | interactive => some 'i'
  | monitor => some 'm'
  | noexec => some 'n'
  | stdin => some 's'
  | xtrace => some 'x'
  | verbose => some 'v'
  | vi => some 'V'
  | emacs => some 'E'
  | noclobber => some 'C'
  | allexport => some 'a'
  | notify => some 'b'
  | nounset => some 'u'
  | privileged => some 'p'
  | nolog => none
  | debug => none

def ofName? (name : String) : Option Setting := all.find? fun x => x.name == name

def ofLetter? (c : Char) : Option Setting := all.find? fun x => x.letter? == some c

/-- Settings with one of them switched. -/
def switch (x : Setting) (on : Bool) (settings : List Setting) : List Setting :=
  let others := settings.filter (· != x)
  if on then x :: others else others

/-- The letters of the settings that are on. -/
def letters (settings : List Setting) : Text :=
  all.reverse.filterMap fun x => if settings.contains x then x.letter? else none

def padded (n : Nat) (t : String) : String :=
  t ++ String.ofList (List.replicate (n - t.length) ' ')

/-- All settings, one by line. -/
def listing (settings : List Setting) : String :=
  "Current option settings\n" ++ String.join (all.map fun x =>
    padded 16 x.name ++ (if settings.contains x then "on" else "off") ++ "\n")

/-- The same as commands that bring the settings about. -/
def commands (settings : List Setting) : String :=
  String.join (all.map fun x =>
    "set " ++ (if settings.contains x then "-o " else "+o ") ++ x.name ++ "\n")

end Setting

end Exemplar.Shell
