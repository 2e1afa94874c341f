import CommandAudit.Command.Run
import Std.Time.DateTime.Timestamp

/-!
# The program

The program looks at the files that a command needs, runs the command on what it saw, writes what
the command wrote and returns its exit code.
-/

namespace CommandAudit

/-- What stands at a path of the system, with everything below it. -/
partial def observe (path : String) : IO (Option FileNode) := do
  let place := (← IO.currentDir) / path
  if ← place.isDir then
    let names := (← place.readDir).toList.map (·.fileName)
    let entries ← names.filterMapM fun name => do
      return (← observe s!"{path}/{name}").map fun node => (name, node)
    return some (.directory entries)
  else if ← place.pathExists then
    match (← place.metadata).type with
    | .file =>
      try
        return some (.file (← IO.FS.readBinFile place).toList)
      catch e => return some (.unreadable (toString e))
    | _ => return some .special
  else return none

/-- Adds to a tree what stands at a path of the system. -/
def FileTree.lookAt (t : FileTree) (p : Path) : IO FileTree := do
  match checkPath p with
  | .error _ => return t
  | .ok () =>
    match ← observe (t.resolve p).toString with
    | some node => return t.putAt p node
    | none => return t

/-- Adds to a tree the files and directories on the way to a path, but nothing below them. -/
def FileTree.lookAlong (t : FileTree) (p : Path) : IO FileTree := do
  let here ← IO.currentDir
  let all := (t.resolve p).parts
  (List.range all.length).foldlM (fun t n => do
    let way : Path := { root := .slash, parts := all.take (n + 1) }
    if (t.find way).toOption.isSome then return t
    else
      let place := here / way.toString
      if ← place.isDir then return t.putAt way (.directory [])
      else if ← place.pathExists then return t.putAt way (.file [])
      else return t) t

/-- The path of the settings that a command asks for. -/
def Command.config : Command → Option String
  | .scan c => c.config
  | .sets c => c.config
  | .help => none

/-- The tree of the files that a command may look at. -/
def Command.gather (command : Command) (t : FileTree) (fromEnvironment : Option String) :
    IO FileTree := do
  let named := command.config.map fun s => Path.ofText s
  let config := match named with
    | some p => t.expandHome p
    | none => t.defaultConfigPath fromEnvironment
  let t ← match config with
    | .ok p => t.lookAt p
    | .error _ => pure t
  let t ← match t.loadSettings named fromEnvironment with
    | .ok (settings, _) => settings.catalogue.elim (pure t) t.lookAt
    | .error _ => pure t
  match command with
  | .scan c =>
    let t ← t.lookAt (.ofText c.target)
    c.output.elim (pure t) fun output => t.lookAlong (.ofText output)
  | _ => return t

/-- The names on the way that a text gives. -/
def wayTo (s : String) : List String :=
  (Path.ofText s).parts.map Text.lossy

/-- The home directories of the users of the system. -/
def accountHomes : IO (List (String × List String)) := do
  let accounts ← try IO.FS.readFile "/etc/passwd" catch _ => pure ""
  return (accounts.splitOn "\n").filterMap fun line =>
    match line.splitOn ":" with
    | name :: _ :: _ :: _ :: _ :: home :: _ => some (name, wayTo home)
    | _ => none

/-- The present time. -/
def presentTime : IO String := do
  let now ← Std.Time.Timestamp.now
  return universalTime (now.toNanosecondsSinceUnixEpoch.val.toNat / 1000)

/-- Writes what a command wrote. -/
def RunResult.deliver (r : RunResult) : IO Unit := do
  for record in r.log do
    IO.eprintln s!"{record.level.label}:{record.source.label}:{record.text.lossy}"
  for line in r.lines do
    IO.println line
  if let some (path, text) := r.saved then
    let place := (← IO.currentDir) / path.toString
    if let some parent := place.parent then IO.FS.createDirAll parent
    IO.FS.writeFile place text
  if let some text := r.json then IO.print text
  if r.breakdown.isSome then IO.eprintln "The run was broken off."

end CommandAudit

open CommandAudit in
/-- Runs the command given by the arguments. -/
def main (args : List String) : IO UInt32 := do
  match Command.ofWords args with
  | .error e =>
    IO.eprintln s!"Error: {e.message}"
    return 2
  | .ok command =>
    let fromEnvironment ← IO.getEnv "CMDSCAN_CONFIG"
    let here := Path.ofText (← IO.currentDir).toString
    let t : FileTree :=
      { here := wayTo (← IO.currentDir).toString
        home := wayTo ((← IO.getEnv "HOME").getD "/")
        homes := ← accountHomes }
    let t := t.putAt here (.directory [])
    let files ← command.gather t fromEnvironment
    let result := command.run
      { files
        configVariable := fromEnvironment
        timestamp := ← presentTime
        bundledPlace := "the program" }
    result.deliver
    return result.exitCode.toUInt32
