import Exemplar.Number.Duration
import Exemplar.Text.Blank
import Exemplar.Text.Search

/-!
# Options of an example

Options are written as flags behind a tag on a statement line, or once for a whole run.
Three of them can only be switched on; the others are unset until a flag sets them, and
the last flag wins.
-/
namespace Exemplar

structure Options where
  skip : Bool
  pass : Bool
  /-- Captured values are pasted into the statements and the expected output. -/
  paste : Bool
  normWs : Option Bool
  tags : Option Bool
  spanLines : Option Bool
  timeout : Option Duration
  deriving DecidableEq, Repr

namespace Options
open Text

def none : Options := ⟨false, false, false, .none, .none, .none, .none⟩

/-- One flag. -/
inductive Flag
  | skip
  | pass
  | paste
  | normWs (on : Bool)
  | tags (on : Bool)
  | spanLines (on : Bool)
  | timeout (limit : Duration)
  deriving DecidableEq, Repr

/-- The flag of a name that is switched on or off. -/
def Flag.named? (name : Text) (on : Bool) : Option Flag :=
  if name = "norm-ws".toList then some (.normWs on)
  else if name = "tags".toList then some (.tags on)
  else if name = "span-lines".toList then some (.spanLines on)
  else if !on then Option.none
  else if name = "skip".toList then some .skip
  else if name = "pass".toList then some .pass
  else if name = "paste".toList then some .paste
  else Option.none

def Flag.ofToken? (token : Text) : Option Flag :=
  match stripPrefix? "+timeout=".toList token with
  | some value =>
    match Duration.parseLimit value with
    | .ok limit => some (.timeout limit)
    | .error _ => Option.none
  | Option.none =>
    match token with
    | '+' :: name => named? name true
    | '-' :: name => named? name false
    | _ => Option.none

def set (o : Options) : Flag → Options
  | .skip => { o with skip := true }
  | .pass => { o with pass := true }
  | .paste => { o with paste := true }
  | .normWs on => { o with normWs := some on }
  | .tags on => { o with tags := some on }
  | .spanLines on => { o with spanLines := some on }
  | .timeout limit => { o with timeout := some limit }

/-- Set the flags of a list of tokens; the first token that is no flag is the error. -/
def setTokens (o : Options) : List Text → Except Text Options
  | [] => .ok o
  | token :: rest =>
    match Flag.ofToken? token with
    | some flag => setTokens (o.set flag) rest
    | Option.none => .error token

/-- Comment closers that may stand behind the flags of a line. -/
def trailers : List Text := ["*/".toList, "-->".toList]

/-- Flags without the white space and the comment closers that end them. -/
def dropTrailers (flags : Text) : Text :=
  trailers.foldl (fun t trailer => (stripSuffix? trailer t).getD t) (trimEnd flags)

def setFlags (o : Options) (flags : Text) : Except Text Options :=
  o.setTokens (words (dropTrailers flags))

/-- Flags of a whole run. -/
def ofFlags (flags : Text) : Except Text Options := none.setFlags flags

/-- Introduces the flags on a statement line. -/
def tag : Text := "byexample:".toList

def setStatements (o : Options) : List Text → Except Text Options
  | [] => .ok o
  | statement :: rest =>
    match breakOn tag statement with
    | Option.none => setStatements o rest
    | some (_, flags) =>
      match o.setFlags flags with
      | .ok o' => setStatements o' rest
      | .error token => .error token

/-- Flags of all statement lines of an example. -/
def ofStatements (statements : List Text) : Except Text Options := none.setStatements statements

/-- Options that are unset here are taken from `defaults`. -/
def withDefaults (o defaults : Options) : Options where
  skip := o.skip || defaults.skip
  pass := o.pass || defaults.pass
  paste := o.paste || defaults.paste
  normWs := o.normWs <|> defaults.normWs
  tags := o.tags <|> defaults.tags
  spanLines := o.spanLines <|> defaults.spanLines
  timeout := o.timeout <|> defaults.timeout

/-- The statements are sent to an interpreter. -/
def executes (o : Options) : Bool := !o.skip

/-- The output is compared with the expected one. -/
def checksOutput (o : Options) : Bool := !o.skip && !o.pass

end Options

end Exemplar
