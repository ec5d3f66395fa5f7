import Exemplar.Text.Blank
import Exemplar.Text.Search

/-!
# Prompts

A prompt says how the statements of one language are marked: the primary marker begins
an example and the continuation marker its further lines. Markers include the space
that ends them.
-/
namespace Exemplar

structure Prompt where
  language : String
  primary : Text
  continuation : Text
  deriving DecidableEq, Repr

namespace Prompt
open Text

/-- A marker without its final space. -/
def bare (marker : Text) : Text := trimEnd marker

/-- The statement on a continuation line without its indentation. The marker without
its final space, alone on the line, stands for an empty statement. -/
def stripContinuation? (p : Prompt) (l : Text) : Option Text :=
  match stripPrefix? p.continuation l with
  | some rest => some rest
  | none =>
    if bare p.continuation ≠ [] ∧ trimEnd l = bare p.continuation then some [] else none

/-- Both markers have a character that is not blank. -/
def Proper (p : Prompt) : Prop := allBlank p.primary = false ∧ allBlank p.continuation = false

instance (p : Prompt) : Decidable p.Proper := by unfold Proper; infer_instance

/-- Neither the language nor the primary marker is shared. -/
def Compatible (p q : Prompt) : Prop := p.language ≠ q.language ∧ p.primary ≠ q.primary

instance (p q : Prompt) : Decidable (p.Compatible q) := by unfold Compatible; infer_instance

theorem Compatible.symm {p q : Prompt} (h : p.Compatible q) : q.Compatible p :=
  ⟨h.1.symm, h.2.symm⟩

end Prompt

end Exemplar
