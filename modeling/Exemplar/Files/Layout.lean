import Exemplar.Files.Tree

/-!
# The files of a system

Beside the files it is about, a tree holds what every system has: the usual directories,
the devices, the programs and a list of users. The working directory lies in the directory for
temporary files.
-/
namespace Exemplar.Files.Layout

def names (p : String) : Place := Path.plain (Path.parts p.toList)

/-- The place at which the program works. -/
def home : Place := names "tmp/work"

def directories : List String :=
  ["boot", "dev", "dev/fd", "dev/pts", "dev/shm", "etc", "home", "media", "mnt", "opt", "proc",
    "root", "run", "srv", "sys", "tmp", "tmp/work", "usr", "usr/bin", "usr/games", "usr/include",
    "usr/lib", "usr/local", "usr/local/bin", "usr/local/etc", "usr/local/lib", "usr/local/sbin",
    "usr/local/share", "usr/sbin", "usr/share", "usr/src", "var", "var/cache", "var/lib",
    "var/log", "var/tmp"]

def links : List (String × String) :=
  [("bin", "usr/bin"), ("sbin", "usr/sbin"), ("lib", "usr/lib"), ("usr/bin/sh", "dash")]

def devices : List String :=
  ["dev/null", "dev/zero", "dev/full", "dev/random", "dev/urandom", "dev/tty", "dev/stdin",
    "dev/stdout", "dev/stderr", "dev/fd/0", "dev/fd/1", "dev/fd/2"]

/-- Programs in the directory for them. -/
def programs : List String :=
  ["[", "arch", "base64", "basename", "bash", "cat", "chmod", "cmp", "comm", "cp", "cut", "dash",
    "date", "diff", "dir", "dirname", "echo", "egrep", "env", "expr", "factor", "false", "fgrep",
    "find", "fold", "grep", "head", "hostname", "id", "kill", "link", "ln", "logname", "ls",
    "mkdir", "mktemp", "mv", "nice", "nl", "nohup", "nproc", "od", "paste", "printenv", "printf",
    "pwd", "readlink", "realpath", "rev", "rm", "rmdir", "sed", "seq", "setsid", "sleep", "sort",
    "stat", "stdbuf", "sync", "tac", "tail", "tee", "test", "timeout", "touch", "tr", "true",
    "truncate", "tty", "uname", "uniq", "unlink", "wc", "which", "whoami", "xargs", "yes"]

def files : List (String × String) :=
  [("etc/passwd", "root:x:0:0:root:/root:/bin/bash\n" ++
      "daemon:x:1:1:daemon:/usr/sbin:/usr/sbin/nologin\n" ++
      "nobody:x:65534:65534:nobody:/nonexistent:/usr/sbin/nologin\n"),
    ("etc/group", "root:x:0:\ndaemon:x:1:\nnogroup:x:65534:\n"),
    ("etc/hosts", "127.0.0.1 localhost\n"),
    ("etc/shells", "# /etc/shells: valid login shells\n/bin/sh\n/usr/bin/sh\n/bin/bash\n")]

def entries : List (Place × Entry) :=
  directories.map (fun d => (names d, .directory)) ++
    devices.map (fun d => (names d, .device)) ++
    links.map (fun l => (names l.1, .link l.2.toList)) ++
    programs.map (fun p => (names "usr/bin" ++ [p.toList], .file [])) ++
    files.map fun f => (names f.1, .file (Text.toBytes f.2.toList))

/-- The system with entries below the working directory. -/
def tree (below : List (Place × Entry)) : Tree :=
  ⟨below.map (fun e => (home ++ e.1, e.2)) ++ entries, home⟩

end Exemplar.Files.Layout
