import CommandAudit.Path
import CommandAudit.Yaml.Data

/-!
# Files and directories

A tree of files and directories with a working directory and home directories. Paths are followed
name by name: `..` leads to the directory above, and every name before the last must be that of a
directory. Names and paths have a greatest length, and a path must be encodable. Every directory may
be read. How documents in files are read is left open, and so is how deep a search may go.
-/

namespace CommandAudit

/-- A file or a directory. -/
inductive FileNode
  /-- A regular file. -/
  | file (content : List UInt8)
  /-- A regular file without a size whose content cannot be read, for the given reason. -/
  | unreadable (reason : String)
  /-- Something that is neither a regular file nor a directory. -/
  | special
  /-- A directory. -/
  | directory (entries : List (String × FileNode))
  deriving Repr, Inhabited

/-- Why something cannot be done to a file. -/
inductive FileError
  /-- There is no such file or directory. -/
  | notFound
  /-- A name on the way is no directory. -/
  | notDirectory
  /-- The file is a directory. -/
  | isDirectory
  /-- There is a file where a directory is needed. -/
  | exists
  /-- A name or the whole path is too long. -/
  | tooLong
  /-- The path holds the null character. -/
  | nullCharacter
  /-- The path holds surrogates, so it cannot be encoded. -/
  | notEncodable
  /-- Reading or searching fails. -/
  | failed (reason : String)
  deriving DecidableEq, Repr

/-- The wording of an error. -/
def FileError.message : FileError → String
  | .notFound => "No such file or directory"
  | .notDirectory => "Not a directory"
  | .isDirectory => "Is a directory"
  | .exists => "File exists"
  | .tooLong => "File name too long"
  | .nullCharacter => "embedded null byte"
  | .notEncodable => "surrogates not allowed"
  | .failed reason => reason

namespace FileNode

/-- Whether it is a directory. -/
def isDirectory : FileNode → Bool
  | .directory _ => true
  | _ => false

/-- Whether it is a regular file. -/
def isFile : FileNode → Bool
  | .file _ | .unreadable _ => true
  | _ => false

/-- The size of a file in bytes. -/
def size : FileNode → Nat
  | .file content => content.length
  | _ => 0

/-- The content of a file. -/
def read : FileNode → Except FileError (List UInt8)
  | .file content => .ok content
  | .unreadable reason => .error (.failed reason)
  | .special => .ok []
  | .directory _ => .error .isDirectory

/-- Replaces the entry with the given name, or adds it. -/
def setEntry (entries : List (String × FileNode)) (name : String) (node : FileNode) :
    List (String × FileNode) :=
  if entries.any (·.1 = name) then
    entries.map fun e => if e.1 = name then (name, node) else e
  else entries ++ [(name, node)]

/-- Puts `new` at the end of a way of names; missing directories are made. -/
def put : FileNode → List String → FileNode → FileNode
  | _, [], new => new
  | .directory entries, name :: rest, new =>
    let below := (entries.lookup name).getD (.directory [])
    .directory (setEntry entries name (put below rest new))
  | _, name :: rest, new => .directory [(name, put (.directory []) rest new)]

/-- Removes what is at the end of a way of names. -/
def remove : List String → FileNode → FileNode
  | [name], .directory entries => .directory (entries.filter (·.1 ≠ name))
  | name :: rest, .directory entries =>
    match entries.lookup name with
    | some node => .directory (setEntry entries name (remove rest node))
    | none => .directory entries
  | _, node => node

mutual

/-- Everything below a directory, each item with the way of names that leads to it. -/
def itemsBelow : FileNode → List (List String × FileNode)
  | .directory entries => itemsOfEntries entries
  | _ => []

/-- Entries and everything below them. -/
def itemsOfEntries : List (String × FileNode) → List (List String × FileNode)
  | [] => []
  | (name, node) :: rest =>
    ([name], node) :: (node.itemsBelow.map fun (way, found) => (name :: way, found)) ++
      itemsOfEntries rest

end

end FileNode

/-- A tree of files with the directories that paths may refer to, a reader of the documents in
files, and the reach of a search. What the reader makes of a document depends on the bytes alone,
not on the place in a run where it is read. -/
structure FileTree where
  /-- The directory at the root. -/
  root : FileNode := .directory []
  /-- The way to the working directory. -/
  here : List String := []
  /-- The way to the home directory. -/
  home : List String := []
  /-- The ways to the home directories of other users. -/
  homes : List (String × List String) := []
  /-- The data of a YAML document given by its bytes. -/
  readYaml : List UInt8 → Except Yaml.YamlError Value :=
    fun bytes => Yaml.parse bytes
  /-- How many directories, one below the other, a search can enter, if that is limited. -/
  searchDepth : Option Nat := none

namespace FileTree

/-! ## Looking up -/

/-- The greatest length of a name, in bytes. -/
def nameLimit : Nat :=
  255

/-- The greatest length of the text of a path, in bytes. -/
def pathLimit : Nat :=
  4095

/-- Whether every surrogate of a name stands for a single byte that is no text. -/
def hasOnlyByteMarks (name : Text) : Bool :=
  name.points.all fun n => !isSurrogate n || (0xDC80 ≤ n && n ≤ 0xDCFF)

/-- Refuses a path that no file can have. -/
def checkPath (p : Path) : Except FileError Unit :=
  if !p.parts.all hasOnlyByteMarks then .error .notEncodable
  else if p.parts.any fun part => part.points.contains 0 then .error .nullCharacter
  else if pathLimit < p.toString.utf8ByteSize then .error .tooLong
  else .ok ()

/-- Follows names from `node`; `trail` holds the names passed and the directories they were found
in, latest first. The result has the way from the root. -/
def follow (trail : List (String × FileNode)) (node : FileNode) :
    List Text → Except FileError (List String × FileNode)
  | [] => .ok ((trail.map Prod.fst).reverse, node)
  | name :: rest =>
    match node with
    | .directory entries =>
      if name = ".." then
        match trail with
        | (_, above) :: trail => follow trail above rest
        | [] => follow [] node rest
      else
        match name with
        | .broken _ => .error .notFound
        | .string name =>
          if nameLimit < name.utf8ByteSize then .error .tooLong
          else
            match entries.lookup name with
            | some next => follow ((name, node) :: trail) next rest
            | none => .error .notFound
    | _ => .error .notDirectory

/-- The names to follow from the root. -/
def fromRoot (t : FileTree) (p : Path) : List Text :=
  if p.isAbsolute then p.parts else t.here.map .string ++ p.parts

/-- Finds what a path leads to. -/
def find (t : FileTree) (p : Path) : Except FileError (List String × FileNode) := do
  checkPath p
  follow [] t.root (t.fromRoot p)

/-- What a path leads to, if there is something. That a name is too long is an error; a path that no
file can have for another reason leads to nothing. -/
def node? (t : FileTree) (p : Path) : Except FileError (Option FileNode) :=
  match t.find p with
  | .ok (_, node) => .ok (some node)
  | .error .tooLong => .error .tooLong
  | .error _ => .ok none

/-- The content of the file a path leads to. -/
def read (t : FileTree) (p : Path) : Except FileError (List UInt8) := do
  (← t.find p).2.read

/-- Takes every `..` together with the name before it. -/
def normalize (parts : List Text) : List Text :=
  let step (acc : List Text) (part : Text) := if part = ".." then acc.tail else part :: acc
  (parts.foldl step []).reverse

/-- The path from the root that a path stands for. -/
def resolve (t : FileTree) (p : Path) : Path :=
  { root := .slash, parts := normalize (t.fromRoot p) }

/-! ## Changing -/

/-- The tree with something put at the place a path stands for. -/
def putAt (t : FileTree) (p : Path) (node : FileNode) : FileTree :=
  { t with root := t.root.put ((t.resolve p).parts.map Text.lossy) node }

/-- Makes a directory and all directories on the way to it. -/
def makeDirectories (t : FileTree) (p : Path) : Except FileError FileTree := do
  checkPath p
  go t [] (t.fromRoot p)
where
  /-- Makes the directories named by the rest of the way; `done` is the way so far, latest first. -/
  go (t : FileTree) (done : List Text) : List Text → Except FileError FileTree
    | [] => .ok t
    | name :: rest =>
      if name = ".." then go t done.tail rest
      else
        let way := (name :: done).reverse
        match follow [] t.root way with
        | .ok (_, .directory _) => go t (name :: done) rest
        | .ok _ => .error (if rest.isEmpty then .exists else .notDirectory)
        | .error .tooLong => .error .tooLong
        | .error _ =>
          go (t.putAt { root := .slash, parts := way } (.directory [])) (name :: done) rest

/-- Saves a file at a path; missing directories on the way are made. -/
def save (t : FileTree) (p : Path) (content : List UInt8) : Except FileError FileTree := do
  let t ← t.makeDirectories p.parent
  checkPath p
  match t.find p with
  | .ok (_, .directory _) => .error .isDirectory
  | .error .tooLong => .error .tooLong
  | .ok (_, .special) => .ok t
  | _ => .ok (t.putAt p (.file content))

/-- Removes what a path leads to. -/
def delete (t : FileTree) (p : Path) : Except FileError FileTree := do
  let (way, _) ← t.find p
  .ok { t with root := t.root.remove way }

end FileTree

end CommandAudit
