import Exemplar.Text.Case

/-!
# Comment rules

How the comments of one kind of file are written: delimiters of block comments, the
marker of line comments, and which of them may hold examples. The table of rules is
keyed by file extension.
-/
namespace Exemplar.Comment

structure BlockForm where
  opener : Text
  closer : Text
  /-- The opener counts only with nothing but spaces and tabs before it on its line. -/
  opensLine : Bool
  deriving DecidableEq, Repr

structure Rule where
  /-- What the rule is called in messages. -/
  name : String
  blocks : List BlockForm
  lineMarker : Option Text
  /-- Line comments may hold examples. -/
  searchable : Bool
  /-- Spaces, tabs and asterisks that begin a line of a block become one space. -/
  decorated : Bool
  /-- The whole file is one comment. -/
  wholeFile : Bool
  deriving DecidableEq, Repr

namespace Rule

def block (opener closer : String) : BlockForm := ⟨opener.toList, closer.toList, false⟩

/-- Blocks that open their line, and `//` comments, which are not searched. -/
def slash : Rule :=
  ⟨"/* ... */", [⟨"/*".toList, "*/".toList, true⟩], some "//".toList, false, true, false⟩

/-- Triple quotes, and `#` comments, which are not searched. -/
def tripleQuote : Rule :=
  ⟨"''' ... ''' or \"\"\" ... \"\"\"", [block "\"\"\"" "\"\"\"", block "'''" "'''"],
    some "#".toList, false, false, false⟩

/-- Runs of `#` comments. -/
def hash : Rule := ⟨"# ...", [], some "#".toList, true, false, false⟩

/-- Runs of `#` comments, and documentation blocks. -/
def hashOrBegin : Rule :=
  ⟨"# ... or =begin ... =end", [block "=begin" "=end"], some "#".toList, true, false, false⟩

/-- Fenced code, and comments of the markup. -/
def fence : Rule :=
  ⟨"``` ... ``` or <!-- ... -->",
    [block "```" "```", block "<!--" "-->"], none, false, false, false⟩

def plain : Rule := ⟨"no delimiter", [], none, false, false, true⟩

/-- The rules by extension, in lower case. -/
def table : List (List String × Rule) :=
  [(["c", "h", "cc", "cpp", "cxx", "hpp", "hh", "js", "mjs", "cjs", "java", "go", "php"], slash),
   (["py"], tripleQuote),
   (["rb"], hashOrBegin),
   (["sh", "bash", "ps1"], hash),
   (["md", "markdown"], fence),
   (["txt", "rst"], plain)]

/-- The rule for a file extension, in any case. -/
def forExtension? (extension : Text) : Option Rule :=
  let name := String.ofList (Text.lower extension)
  (table.find? fun entry => entry.1.contains name).map Prod.snd

def withSearchable (rule : Rule) (searchable : Bool) : Rule :=
  ⟨rule.name, rule.blocks, rule.lineMarker, searchable, rule.decorated, rule.wholeFile⟩

end Rule

end Exemplar.Comment
