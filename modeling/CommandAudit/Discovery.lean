import CommandAudit.Failure
import CommandAudit.Text.Alphanumeric
import CommandAudit.Text.Blank
import CommandAudit.Text.LineEnd
import CommandAudit.Text.Utf8

/-!
# Finding scripts

A file is a shell script if its name has one of the usual endings or its first line names a shell.
Below a directory all scripts are found except those on whose way a name is in the ignore list.
-/

namespace CommandAudit

/-! ## The first line -/

/-- The words of which a shell's name may be made: an optional kind, and `sh`. -/
def shellNames : List (List Char) :=
  ["sh", "bash", "dash", "ksh", "zsh"].map String.toList

/-- Whether `cs` starts with the name of a shell that is not continued by a word character. -/
def startsWithShell (cs : List Char) : Bool :=
  shellNames.any fun name =>
    name.isPrefixOf cs && !(cs.drop name.length).head?.any fun c => isAlphanumeric c || c == '_'

/-- The text after `env` and blanks, if `cs` starts with them. -/
def afterEnv? (cs : List Char) : Option (List Char) :=
  let rest := cs.drop 3
  if "env".toList.isPrefixOf cs && rest.head?.any isBlank then some (rest.dropWhile isBlank)
  else none

/-- The places at which the program may be named: the start, and after every slash of the first
word. -/
def programStarts : List Char → List (List Char)
  | [] => [[]]
  | c :: cs => (c :: cs) :: afterSlashes (c :: cs)
where
  /-- The places after the slashes of the first word. -/
  afterSlashes : List Char → List (List Char)
    | [] => []
    | c :: cs =>
      if isBlank c then []
      else if c == '/' then cs :: afterSlashes cs
      else afterSlashes cs

/-- Whether a first line names a shell. -/
def namesShell (line : List Char) : Bool :=
  match line with
  | '#' :: '!' :: rest =>
    (programStarts (rest.dropWhile isBlank)).any fun cs =>
      startsWithShell cs || (afterEnv? cs).any startsWithShell
  | _ => false

/-- The longest part of a first line that is looked at. -/
def firstLineLimit : Nat :=
  256

/-- The first line of a file, cut to the limit. -/
def firstLine (bytes : List UInt8) : List Char :=
  let cs := unifyLineEnds (decodeUtf8Lossy bytes)
  (cs.takeWhile (· != '\n') ++ (cs.dropWhile (· != '\n')).take 1).take firstLineLimit

/-! ## Scripts -/

/-- The endings of the names of scripts. -/
def shellSuffixes : List String :=
  [".sh", ".bash", ".zsh", ".ksh"]

/-- Whether the content of a file, if it can be read, starts with a line that names a shell. -/
def FileNode.namesShell (node : FileNode) : Bool :=
  match node.read with
  | .ok bytes => CommandAudit.namesShell (firstLine bytes)
  | .error _ => false

/-- Whether a file with the given name is a shell script. -/
def isShellScript (name : String) (node : Option FileNode) : Bool :=
  shellSuffixes.contains (String.ofList (Path.suffixOf name.toList)) || node.any FileNode.namesShell

/-- The names that are passed over in a search. -/
def ignoredNames : List String :=
  ["__pycache__", ".git", ".hg", ".svn", "node_modules", ".venv", "venv", ".tox", ".mypy_cache",
    ".pytest_cache", "dist", "build"]

/-- Whether a search passes over a file because of a name on its way. -/
def isIgnored (way : List String) : Bool :=
  way.any ignoredNames.contains

/-- The order of ways: by the first name in which they differ; a way comes before what it leads
to. -/
def wayLE : List String → List String → Bool
  | [], _ => true
  | _ :: _, [] => false
  | a :: as, b :: bs => a < b || (a == b && wayLE as bs)

/-- The ways to the shell scripts below a directory, in order. -/
def FileNode.scripts (node : FileNode) : List (List String) :=
  let found := node.itemsBelow.filter fun (way, found) =>
    found.isFile && !isIgnored way && isShellScript (way.getLast?.getD "") found
  (found.map Prod.fst).mergeSort wayLE

/-- Whether a path is too long to look at what it leads to. -/
def FileTree.isOutOfReach (t : FileTree) (p : Path) : Bool :=
  t.find p matches .error .tooLong

/-- Whether the way leads to a directory that lies too deep for a search. -/
def FileTree.isTooDeep (t : FileTree) (way : List String) (found : FileNode) : Bool :=
  found.isDirectory && t.searchDepth.any (· < way.length)

/-- The paths of the shell scripts below a directory, relative to it. The path of the directory is
resolved before it is looked up. Every directory below it is entered and then everything below it is
looked at, also what is passed over because of a name on its way. -/
def FileTree.discover (t : FileTree) (p : Path) : Outcome (List Path) := do
  let directory := t.resolve p
  if let .error .nullCharacter := t.find directory then
    throw (.breakdown (.file .nullCharacter))
  match ← ofFile (t.node? directory) with
  | none => refuse .directoryNotFound directory
  | some node =>
    if !node.isDirectory then refuse .notDirectory directory
    else if node.itemsBelow.any fun (way, found) => t.isTooDeep way found then
      .error (.breakdown (.file (.failed "maximum recursion depth exceeded")))
    else if node.itemsBelow.any fun (way, _) =>
        t.isOutOfReach (directory.join { parts := way.map .string }) then
      .error (.breakdown (.file .tooLong))
    else .ok (node.scripts.map fun way => { parts := way.map .string })

/-- Whether the file at a path is a shell script. -/
def FileTree.isShellScript (t : FileTree) (p : Path) : Outcome Bool :=
  match t.find p with
  | .error .nullCharacter =>
    if CommandAudit.isShellScript p.name none then .ok true
    else .error (.breakdown (.file .nullCharacter))
  | found => .ok (CommandAudit.isShellScript p.name (found.toOption.map Prod.snd))

end CommandAudit
