import Exemplar.Text.Search

/-!
# Options of commands

Options are letters behind a dash. In the letters that a command knows, a colon behind a
letter asks for a value, which may stand in the same argument or in the next one. Two
dashes end the options.
-/
namespace Exemplar.Shell.Builtin

/-- Options with their values, and the arguments behind them. -/
structure Given where
  options : List (Char × Text)
  operands : List Text

namespace Given

def has (g : Given) (c : Char) : Bool := g.options.any fun o => o.1 == c

/-- The value of the last option with a letter. -/
def value? (g : Given) (c : Char) : Option Text := g.options.reverse.lookup c

/-- The last of some letters that was given. -/
def last? (g : Given) (letters : List Char) : Option Char :=
  ((g.options.map Prod.fst).filter letters.contains).getLast?

end Given

/-- Whether a letter is known, and whether it takes a value. -/
def takesValue? (known : Text) (c : Char) : Option Bool :=
  match known.dropWhile (· != c) with
  | [] => none
  | _ :: ':' :: _ => some true
  | _ => some false

inductive OptionError
  | illegal (c : Char)
  | noValue (c : Char)
  deriving DecidableEq, Repr

def OptionError.message : OptionError → Text
  | illegal c => "Illegal option -".toList ++ [c]
  | noValue c => "No arg for -".toList ++ c :: " option".toList

/-- Read the letters of one argument. -/
def letters (known : Text) : Text → List Text → Except OptionError Given
  | [], args => .ok ⟨[], args⟩
  | c :: r, args =>
    match takesValue? known c with
    | none => .error (.illegal c)
    | some false => do
      let g ← letters known r args
      return { g with options := (c, []) :: g.options }
    | some true =>
      if !r.isEmpty then .ok ⟨[(c, r)], args⟩
      else match args with
        | v :: args => .ok ⟨[(c, v)], args⟩
        | [] => .error (.noValue c)

/-- Read options as far as there are some. -/
def given (known : Text) : Nat → List Text → Except OptionError Given
  | 0, args => .ok ⟨[], args⟩
  | fuel + 1, args =>
    match args with
    | ('-' :: c :: r) :: rest =>
      if c = '-' && r.isEmpty then .ok ⟨[], rest⟩
      else do
        let first ← letters known (c :: r) rest
        let more ← given known fuel first.operands
        return ⟨first.options ++ more.options, more.operands⟩
    | args => .ok ⟨[], args⟩

def optionsOf (known : String) (args : List Text) : Except OptionError Given :=
  given known.toList (args.length + 1) args

end Exemplar.Shell.Builtin
