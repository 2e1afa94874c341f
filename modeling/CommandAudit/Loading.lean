import CommandAudit.Catalogue.Bundled
import CommandAudit.Failure
import CommandAudit.Record.Catalogue
import CommandAudit.Script
import CommandAudit.Settings
import CommandAudit.Text.LineEnd

/-!
# Loading files

Scripts, settings and catalogues are read from a tree of files. A script may hold any bytes, but its
size is bounded. Settings and catalogues are YAML documents in UTF-8. Some values that a document
may hold cannot be represented; they end the run at once.
-/

namespace CommandAudit

/-! ## Scripts -/

/-- The text of a script from the bytes of its file. -/
def scriptText (bytes : List UInt8) : String :=
  String.ofList (unifyLineEnds (decodeUtf8Lossy bytes))

namespace FileTree

/-- Refuses a script because of its size. -/
def refuseSize {α : Type} (size : Nat) (settings : Settings) (p : Path) : Outcome α :=
  if (integerText? settings.minSize).isSome ∧ (integerText? settings.maxSize).isSome then
    refuse (.sizeOutOfBounds size settings.minSize settings.maxSize) p
  else .error (.breakdown .numberTooLong)

/-- Loads the script at a path, under the given name or under its path. -/
def loadScript (t : FileTree) (p : Path) (settings : Settings) (name : String := "") :
    Outcome Script := do
  match ← ofFile (t.node? p) with
  | none => refuse .scriptNotFound p
  | some node =>
    if !node.isFile then refuse .notRegularFile p
    else if (node.size : Int) < settings.minSize ∨ settings.maxSize < node.size then
      refuseSize node.size settings p
    else
      match node.read with
      | .error e => refuse (.scriptUnreadable e.message) p
      | .ok bytes =>
        .ok { text := scriptText bytes, name := if name = "" then p.toString else name }

/-! ## YAML documents -/

/-- The data of a YAML file, or the problem given for a file that is not readable. -/
def loadData (t : FileTree) (p : Path) (unreadable : InputProblem) : Outcome Value :=
  match t.read p with
  | .error .nullCharacter => .error (.breakdown (.file .nullCharacter))
  | .error .notEncodable => .error (.breakdown (.file .notEncodable))
  | .error _ => refuse unreadable p
  | .ok bytes =>
    match t.readYaml bytes with
    | .ok v => .ok v
    | .error e => if e.isOfDocument then refuse unreadable p else .error (.breakdown (.document e))

/-- The entries of a record whose keys must all be texts. -/
def recordEntries (entries : List (Value × Value)) : Outcome (List (Value × Value)) :=
  if entries.all fun e => e.1 matches .text _ then .ok entries
  else .error (.breakdown .keyNotText)

/-- Loads the catalogue in a file. -/
def loadCatalogue (t : FileTree) (p : Path) : Outcome Catalogue := do
  if t.read p matches .error .notFound then refuse .catalogueNotFound p
  else
    match ← t.loadData p .catalogueUnreadable with
    | .mapping entries =>
      match Catalogue.ofRecord (← recordEntries entries) with
      | .valid c => .ok c
      | .invalid ps => refuse (.catalogueInvalid ps) p
    | _ => refuse .catalogueNotMapping p

/-- The catalogue in a file, or the bundled one if no file is given. -/
def catalogueAt (t : FileTree) : Option Path → Outcome Catalogue
  | some p => t.loadCatalogue p
  | none => .ok .bundled

/-! ## Settings -/

/-- The way to the home directory that a name refers to: a tilde for the home directory itself, or a
tilde and the name of a user. The result is none for another name. -/
def homeNamed? (t : FileTree) (name : Text) : Option (Outcome (List String)) :=
  match name.lossy.toList with
  | '~' :: user =>
    if user.isEmpty then some (.ok t.home)
    else some ((t.homes.lookup (String.ofList user)).elim (.error (.breakdown .unknownHome)) .ok)
  | _ => none

/-- The path with a tilde at its start replaced by the home directory it refers to. -/
def expandHome (t : FileTree) (p : Path) : Outcome Path :=
  match p.root, p.parts with
  | .here, first :: rest =>
    match t.homeNamed? first with
    | none => .ok p
    | some home => do .ok { root := .slash, parts := (← home).map .string ++ rest }
  | _, _ => .ok p

/-- Where settings are looked for if no file is named: in the file named by the environment, or in
the home directory. -/
def defaultConfigPath (t : FileTree) (fromEnvironment : Option String) : Outcome Path :=
  match fromEnvironment.filter (· ≠ "") with
  | some s => t.expandHome (.ofText s)
  | none => .ok { root := .slash, parts := (t.home ++ [".cmdscan", "config.yaml"]).map .string }

/-- Settings with the path of their catalogue taken from the directory of their own file. -/
def anchorCatalogue (config : Path) (s : Settings) : Settings :=
  { s with catalogue := s.catalogue.map config.parent.join }

/-- Loads the settings in an existing file. -/
def loadConfig (t : FileTree) (p : Path) : Outcome Settings := do
  let v ← t.loadData p .configUnreadable
  match if v.isEmpty then .mapping [] else v with
  | .mapping entries =>
    match Settings.ofRecord (← recordEntries entries) with
    | .valid s => .ok (anchorCatalogue p s)
    | .invalid ps => refuse (.configInvalid ps) p
  | _ => refuse .configNotMapping p

/-- Where the settings of a run came from. -/
inductive SettingsSource
  /-- From a file. -/
  | loaded (path : Path)
  /-- There is no file; the defaults are used. -/
  | defaults (path : Path)
  deriving DecidableEq, Repr

/-- Loads settings from the named file, or from the usual places. Only a named file must exist. -/
def loadSettings (t : FileTree) (named : Option Path) (fromEnvironment : Option String) :
    Outcome (Settings × SettingsSource) := do
  let path ← match named with
    | some p => t.expandHome p
    | none => t.defaultConfigPath fromEnvironment
  if (← ofFile (t.node? path)).isSome then
    .ok (← t.loadConfig path, .loaded path)
  else if named.isSome then refuse .configNotFound path
  else .ok ({}, .defaults path)

end FileTree

end CommandAudit
