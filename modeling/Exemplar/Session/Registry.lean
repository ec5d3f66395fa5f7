import Exemplar.Session.Live
import Exemplar.Text.Quoted

/-!
# Interpreters by language

A registry holds one description for each language. It starts sessions and says what the
log tells about a start.
-/
namespace Exemplar.Session
open Text

structure Registry where
  specs : List Spec

namespace Registry

/-- Put a description in, in place of the one for its language. -/
def insert (r : Registry) (spec : Spec) : Registry :=
  ⟨spec :: r.specs.filter fun s => s.language != spec.language⟩

/-- Later descriptions take the place of earlier ones. -/
def ofList (specs : List Spec) : Registry := specs.foldl insert ⟨[]⟩

def standard : Registry := ofList Spec.standard

def find? (r : Registry) (language : String) : Option Spec :=
  r.specs.find? fun s => s.language == language

/-- Use another command line for a language. -/
def setCommand (r : Registry) (language : String) (commandLine : Text) : Except Error Registry :=
  match r.find? language with
  | none => .error (.unknownLanguage language)
  | some spec =>
    match spec.withCommand? commandLine with
    | none => .error (.spawn language "" "empty command line")
    | some spec' => .ok (r.insert spec')

variable {π : Type}

def start (system : System π) (owner : Nat) (r : Registry) (language : String) :
    Except Error (Live π) :=
  match r.find? language with
  | none => .error (.unknownLanguage language)
  | some spec => Live.start system owner spec

/-- What the log says about starting an interpreter. -/
def startRecords (system : System π) (owner : Nat) (r : Registry) (language : String) :
    List Log.Record :=
  match r.find? language with
  | none => []
  | some spec =>
    let shown := spec.args.map fun a => String.ofList (quoted a.toList)
    let args := "[" ++ ", ".intercalate shown ++ "]"
    let starting : Log.Record := ⟨.debug, s!"starting {language} session: {spec.program} {args}"⟩
    match Live.start system owner spec with
    | .error (.notReady _ response) =>
      let output := String.ofList (trim response.output)
      starting :: (Reply.response response).records language ++
        [⟨.warn, s!"{language} interpreter did not start ({response.status.name}): {output}"⟩]
    | _ => [starting]

/-- The registry as the source of sessions. -/
def interpreters (system : System π) (owner : Nat) (r : Registry) : Interpreters (Live π) where
  start := r.start system owner
  startRecords := r.startRecords system owner
  run := fun s statements limit =>
    match s.run system owner statements limit with
    | (.ok response, s') => (.response response, s')
    | (.error e, s') => (.failed e, s')

end Registry

end Exemplar.Session
