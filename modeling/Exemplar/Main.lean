import Exemplar.CommandLine.Invocation
import Exemplar.Files.Layout
import Exemplar.Shell.Running

/-!
# The program

The program sees the files below the working directory as they are when it starts. Shells
run inside of the program; they see the same files and have a clock of their own. The tokens
of their sessions carry the number of the process that runs the program.
-/
namespace Exemplar.Main

/-- A path from the directory of a link to the place that the link leads to. -/
def linkTarget (top real : String) (link : Files.Place) : Path :=
  match Text.stripPrefix? (top.toList ++ ['/']) real.toList with
  | some inside =>
    ((List.replicate (link.length - 1) "../".toList).flatten) ++ inside
  | none => if real = top then ['.'] else real.toList

/-- The entries below a directory. What cannot be read is left out. -/
partial def entriesBelow (top directory : String) (place : Files.Place) :
    IO (List (Files.Place × Files.Entry)) := do
  let mut found := []
  for e in ← (← IO.FS.realPath directory).readDir do
    let here := place ++ [e.fileName.toList]
    let path := e.path.toString
    try
      match (← e.path.symlinkMetadata).type with
      | .dir =>
        found := found ++ (here, .directory) :: (← entriesBelow top path here)
      | .file =>
        let bytes ← IO.FS.readBinFile path
        found := found ++ [(here, .file bytes.toList)]
      | .symlink =>
        let real ← IO.FS.realPath path
        found := found ++ [(here, .link (linkTarget top real.toString here))]
      | .other => pure ()
    catch _ => pure ()
  return found

def readTree : IO Files.Tree := do
  let top := (← IO.FS.realPath ".").toString
  return Files.Layout.tree (← entriesBelow top top [])

/-- The variables that the program looks at. -/
def readEnvironment : IO CommandLine.Config.Environment := do
  let names := [CommandLine.timeoutVariable, CommandLine.jobsVariable]
  let values ← names.mapM fun name => do return (← IO.getEnv name).map fun v => (name, v.toList)
  return values.filterMap id

/-- The number of the process that runs the program. -/
def processNumber : IO Nat := do
  let own ← IO.FS.realPath "/proc/self"
  match own.fileName.bind String.toNat? with
  | some number => return number
  | none => throw (IO.userError "the number of the process is not known")

def usageText (e : CommandLine.UsageError) : String :=
  match e with
  | .helpRequested => "usage: exemplar [options] <file>...\n"
  | .versionRequested => "exemplar\n"
  | e => "error: " ++ e.message ++ "\n"

end Exemplar.Main

open Exemplar Exemplar.Main in
def main (args : List String) : IO UInt32 := do
  let tree ← readTree
  let env ← readEnvironment
  let owner ← processNumber
  let interpreters := Session.Registry.interpreters (Shell.Running.system tree owner) owner
  match CommandLine.invoke (args.map String.toList) env tree interpreters fun _ => ⟨0⟩ with
  | .error e =>
    if e.exitCode = 0 then IO.print (usageText e) else IO.eprint (usageText e)
    return e.exitCode.toUInt32
  | .ok c =>
    IO.eprint c.errors
    IO.print (String.ofList c.output)
    return c.exitCode.toUInt32
