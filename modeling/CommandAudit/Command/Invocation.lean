import CommandAudit.Command.Arguments
import CommandAudit.LineRange
import CommandAudit.Settings

/-!
# Commands

The two commands of the program, `scan` and `sets`, with their options, and how they are read from
a command line.
-/

namespace CommandAudit

/-- What to scan and how to report it. -/
structure ScanCommand where
  /-- A script, or a directory to search for scripts. -/
  target : String
  /-- Write the report to the standard output. -/
  json : Bool := false
  /-- Write the report to this file. -/
  output : Option String := none
  /-- Log every step and show details. -/
  verbose : Bool := false
  /-- Show errors only. -/
  quiet : Bool := false
  /-- Settings given for this run. -/
  overrides : Overrides := {}
  /-- The file of the settings. -/
  config : Option String := none
  /-- Fail if a name is unresolved. -/
  failOnUnresolved : Bool := false
  /-- The lines to read. -/
  window : Option LineRange := none
  /-- The lines to trace. -/
  trace : Option LineRange := none
  deriving DecidableEq, Repr

/-- Which sets to show. -/
structure SetsCommand where
  /-- The platform. -/
  platform : Option String := none
  /-- The file of the settings. -/
  config : Option String := none
  deriving DecidableEq, Repr

/-- A command of the program. -/
inductive Command
  | scan (command : ScanCommand)
  | sets (command : SetsCommand)
  /-- Show how the program is used. -/
  | help
  deriving DecidableEq, Repr

/-- The option that asks for help. -/
def helpOption : OptionSpec :=
  { long := "help", takesValue := false }

/-- The options of the command `scan`. -/
def scanOptions : List OptionSpec :=
  [helpOption, { long := "json", takesValue := false }, { long := "output", short := some 'o' },
    { long := "verbose", short := some 'v', takesValue := false },
    { long := "quiet", short := some 'q', takesValue := false }, { long := "platform" },
    { long := "escape-mode" }, { long := "max-size" }, { long := "config" },
    { long := "fail-on-unresolved", takesValue := false }, { long := "lines" },
    { long := "trace-lines" }]

/-- The options of the command `sets`. -/
def setsOptions : List OptionSpec :=
  [helpOption, { long := "platform" }, { long := "config" }]

/-! ## Values of options -/

/-- An option that counts as absent if its value is empty. -/
def nonEmptyOption (a : Arguments) (name : String) : Option String :=
  (a.value? name).filter (· ≠ "")

/-- An escape mode; case does not matter. -/
def readEscapeMode (a : Arguments) : Except UsageError (Option EscapeMode) :=
  match a.value? "escape-mode" with
  | none => .ok none
  | some s =>
    match EscapeMode.ofLabel? s.toLower with
    | some mode => .ok (some mode)
    | none => .error (.badValue "--escape-mode" s!"'{s}' is not one of 'legacy', 'strict'.")

/-- An integer. -/
def readMaxSize (a : Arguments) : Except UsageError (Option Int) :=
  match a.value? "max-size" with
  | none => .ok none
  | some s =>
    match (Numeral.read s.toList).toInt? with
    | some n => .ok (some n)
    | none => .error (.badValue "--max-size" s!"'{s}' is not a valid integer.")

/-- A range of lines. -/
def readLineRange (a : Arguments) (name : String) : Except UsageError (Option LineRange) :=
  match a.value? name with
  | none => .ok none
  | some s =>
    match LineRange.ofText s with
    | .ok range => .ok (some range)
    | .error e => .error (.badValue ("--" ++ name) e.message)

/-! ## Command lines -/

/-- The command `scan` with the given arguments. -/
def ScanCommand.ofArguments (a : Arguments) : Except UsageError ScanCommand := do
  let escapeMode ← readEscapeMode a
  let maxSize ← readMaxSize a
  let target ← match a.plain with
    | [] => .error .missingArgument
    | [target] => .ok target
    | _ => .error .surplusArguments
  let window ← readLineRange a "lines"
  let trace ← readLineRange a "trace-lines"
  .ok
    { target
      json := a.has "json"
      output := nonEmptyOption a "output"
      verbose := a.has "verbose"
      quiet := a.has "quiet"
      overrides := { platform := a.value? "platform", escapeMode, maxSize }
      config := nonEmptyOption a "config"
      failOnUnresolved := a.has "fail-on-unresolved"
      window
      trace }

/-- The command `sets` with the given arguments. -/
def SetsCommand.ofArguments (a : Arguments) : Except UsageError SetsCommand :=
  if a.plain.isEmpty then
    .ok { platform := a.value? "platform", config := nonEmptyOption a "config" }
  else .error .surplusArguments

/-- The command with the given name and words. -/
def Command.named (name : String) (words : List String) : Except UsageError Command :=
  if name = "scan" then do
    let a ← Arguments.read scanOptions words
    if a.has "help" then .ok .help else .ok (.scan (← ScanCommand.ofArguments a))
  else if name = "sets" then do
    let a ← Arguments.read setsOptions words
    if a.has "help" then .ok .help else .ok (.sets (← SetsCommand.ofArguments a))
  else .error (.unknownCommand name)

/-- The command of a command line. -/
def Command.ofWords : List String → Except UsageError Command
  | [] => .error .missingCommand
  | word :: rest =>
    if word = "--" then
      match rest with
      | [] => .error .missingCommand
      | name :: words => Command.named name words
    else if word = "--help" then .ok .help
    else if Arguments.isOption word then .error (.unknownOption word)
    else Command.named word rest

end CommandAudit
