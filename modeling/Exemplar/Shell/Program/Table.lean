import Exemplar.Shell.Builtin.Output
import Exemplar.Shell.Builtin.Signals
import Exemplar.Shell.Program.Editing
import Exemplar.Shell.Program.Files
import Exemplar.Shell.Program.Reckoning
import Exemplar.Shell.Program.Searching
import Exemplar.Shell.Program.Sorting
import Exemplar.Shell.Program.System

/-!
# The programs by name

All programs that need no other programs. Those that start others belong to the carrying
out of commands.
-/
namespace Exemplar.Shell.Program
open Text


def test (bracketed : Bool) : Action := fun args s =>
  match Condition.ofArguments s bracketed args with
  | .ok b => s.withStatus (if b then 0 else 1)
  | .error message => fail 2 message s

def printf : Action := fun args s =>
  match args with
  | [] => misused 1 "missing operand".toList s
  | format :: args =>
    let p := Format.print format args
    let s := p.complaints.foldl (fun s c => say (inQuotes c) s) (s.withStatus 0)
    print p.text (if p.complaints.isEmpty && p.failure.isNone then s else s.withStatus 1)

/-- `echo` as a program takes backslashes as they are, unless it is told otherwise. -/
def echo : Action := fun args s =>
  let isOption := fun (a : Text) => match a with
    | '-' :: c :: r => (c :: r).all fun d => d == 'n' || d == 'e' || d == 'E'
    | _ => false
  let options := args.takeWhile isOption
  let words := args.drop options.length
  let letters := options.flatten
  let joined := (words.intersperse [' ']).flatten
  let (t, ended) := if letters.any (· == 'e') then Format.unescape (joined.length + 1) joined
    else (joined, false)
  print (if letters.any (· == 'n') || ended then t else t ++ ['\n']) (s.withStatus 0)

def which : Action := fun args s =>
  args.foldl (fun s name =>
    let paths := splitBy (· == ':') (((environment s).lookup "PATH".toList).getD [])
    let found := paths.findSome? fun d =>
      let path := d ++ '/' :: name
      match s.resolve path with
      | .ok ⟨place, .file _⟩ =>
        if (s.attributeAt place).permissions &&& 0o111 ≠ 0 then some path else none
      | _ => none
    match found with
    | some path => print (path ++ ['\n']) s
    | none => s.withStatus 1) (s.withStatus 0)

def find? (name : String) : Option Action :=
  match name with
  | "cat" => some cat
  | "tee" => some tee
  | "yes" => some yes
  | "head" => some head
  | "tail" => some tail
  | "wc" => some wc
  | "nl" => some nl
  | "tac" => some tac
  | "rev" => some rev
  | "fold" => some fold
  | "cut" => some cut
  | "paste" => some paste
  | "tr" => some tr
  | "sort" => some sort
  | "uniq" => some uniq
  | "comm" => some comm
  | "grep" => some (grepWith false false)
  | "egrep" => some (grepWith true false)
  | "fgrep" => some (grepWith false true)
  | "sed" => some sed
  | "expr" => some expr
  | "seq" => some seq
  | "factor" => some factor
  | "basename" => some basename
  | "dirname" => some dirname
  | "readlink" => some readlink
  | "realpath" => some realpath
  | "ls" => some ls
  | "dir" => some ls
  | "mkdir" => some mkdir
  | "rmdir" => some rmdir
  | "rm" => some rm
  | "unlink" => some rm
  | "touch" => some touch
  | "truncate" => some truncate
  | "ln" => some ln
  | "link" => some ln
  | "chmod" => some chmod
  | "mktemp" => some mktemp
  | "cp" => some (transfer false)
  | "mv" => some (transfer true)
  | "stat" => some stat
  | "cmp" => some cmp
  | "diff" => some diff
  | "sleep" => some sleep
  | "printenv" => some printenv
  | "id" => some id
  | "uname" => some uname
  | "base64" => some base64
  | "od" => some od
  | "which" => some which
  | "whoami" => some (constantly "root\n")
  | "logname" => some (constantly "root\n")
  | "hostname" => some (constantly "localhost\n")
  | "nproc" => some (constantly "4\n")
  | "arch" => some (constantly "x86_64\n")
  | "date" => some (constantly "Thu Jan  1 00:00:00 UTC 1970\n")
  | "tty" => some fun _ s => (print "not a tty\n".toList s).withStatus 1
  | "sync" => some fun _ s => s.withStatus 0
  | "true" => some fun _ s => s.withStatus 0
  | "false" => some fun _ s => s.withStatus 1
  | "echo" => some echo
  | "printf" => some printf
  | "test" => some (test false)
  | "[" => some (test true)
  | "pwd" => some fun _ s => print (Builtin.pathOf s.directory ++ ['\n']) (s.withStatus 0)
  | "kill" => some fun args s =>
    let s' := Builtin.kill args { s with command := none }
    if s'.flow == .error then s'.withFlow .next else s'
  | _ => none

end Exemplar.Shell.Program
