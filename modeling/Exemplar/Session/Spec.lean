import Exemplar.Text.Blank
import Exemplar.Text.Search

/-!
# Describing an interpreter

A description says how an interpreter is started and how one talks to it. The sentinel is
a statement that prints a token on a line of its own, on both output streams; all that
precedes this line is the output of the statements before.
-/
namespace Exemplar.Session
open Text

structure Spec where
  language : String
  program : String
  args : List String
  /-- Statements run at the start; their output is dropped. -/
  init : List Text
  /-- A line sent after the statements of every run. -/
  terminator : Option Text
  sentinel : Text
  /-- Remains of prompts that are cut off the beginning of output lines. -/
  stripPrefixes : List Text
  deriving DecidableEq, Repr

namespace Spec

/-- Stands for the token in a sentinel. -/
def placeholder : Text := "\x7btoken\x7d".toList

def python : Spec where
  language := "python"
  program := "python3"
  args := ["-i", "-q", "-u"]
  init := ["import sys; sys.ps1 = ''; sys.ps2 = ''".toList]
  terminator := some []
  sentinel := "print('\\n\x7btoken\x7d'); print('\\n\x7btoken\x7d', file=sys.stderr)".toList
  stripPrefixes := []

/-- The value of the last statement is echoed, which ends the part on standard output. -/
def ruby : Spec where
  language := "ruby"
  program := "irb"
  args := ["--noreadline", "--nocolorize", "--prompt", "null"]
  init := []
  terminator := none
  sentinel :=
    "print(\"\\n\"); $stderr.print(\"\\n\x7btoken\x7d\\n\"); :\x7btoken\x7d".toList
  stripPrefixes := []

def shell : Spec where
  language := "shell"
  program := "bash"
  args := ["--norc", "--noprofile"]
  init := []
  terminator := none
  sentinel := "printf '\\n%s\\n' \x7btoken\x7d; printf '\\n%s\\n' \x7btoken\x7d >&2".toList
  stripPrefixes := []

def cpp : Spec where
  language := "cpp"
  program := "cling"
  args := ["--nologo"]
  init := ["#include <cstdio>".toList, "#include <iostream>".toList]
  terminator := none
  sentinel :=
    ("std::fflush(stdout); std::printf(\"\\n\x7btoken\x7d\\n\"); std::fflush(stdout); " ++
      "std::fprintf(stderr, \"\\n\x7btoken\x7d\\n\");").toList
  stripPrefixes := ["[cling]$ ? ".toList, "[cling]$ ".toList]

def standard : List Spec := [python, ruby, shell, cpp]

/-- The description with another program and other arguments, from a command line. -/
def withCommand? (spec : Spec) (commandLine : Text) : Option Spec :=
  match (words commandLine).map String.ofList with
  | [] => none
  | program :: args => some { spec with program, args }

/-- The sentinel that prints a token. -/
def sentinelFor (spec : Spec) (token : Text) : Text := replaceAll placeholder token spec.sentinel

/-- The line without the first of the prefixes that begins it. An empty prefix begins every line
and could be cut off for ever, so that an output would never be ready; it is passed over here. -/
def stripOnce? (prefixes : List Text) (l : Text) : Option Text :=
  prefixes.findSome? fun p => if p.isEmpty then none else stripPrefix? p l

theorem stripOnce?_length {prefixes : List Text} {l r : Text} (h : stripOnce? prefixes l = some r) :
    r.length < l.length := by
  obtain ⟨p, _, hp⟩ := List.exists_of_findSome?_eq_some h
  cases p with
  | nil => simp at hp
  | cons c p =>
    simp only [List.isEmpty_cons, Bool.false_eq_true, if_false, stripPrefix?_eq_some] at hp
    rw [hp]
    simp only [List.cons_append, List.length_cons, List.length_append]
    omega

/-- The line without prefixes, cut off again and again. -/
def stripAll (prefixes : List Text) (l : Text) : Text :=
  match _h : stripOnce? prefixes l with
  | none => l
  | some rest => stripAll prefixes rest
termination_by l.length
decreasing_by exact stripOnce?_length _h

/-- Output without the remains of prompts. -/
def stripPrompts (spec : Spec) (output : Text) : Text :=
  if spec.stripPrefixes.isEmpty then output
  else (splitInclusive output).flatMap (stripAll spec.stripPrefixes)

end Spec

end Exemplar.Session
