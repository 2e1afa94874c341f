import CommandAudit.FileTree
import CommandAudit.Validation
import CommandAudit.Yaml.Error

/-!
# Failures

What can keep a run from its result. Most failures are problems of the input, which the program
reports in its own words, with the path they concern. Some faults of a file are not reported that
way: they end the run at once.
-/

namespace CommandAudit

/-- A problem of the input. -/
inductive InputProblem
  | scriptNotFound
  | notRegularFile
  | sizeOutOfBounds (size : Nat) (least greatest : Int)
  | scriptUnreadable (reason : String)
  | directoryNotFound
  | notDirectory
  | configNotFound
  | configUnreadable
  | configNotMapping
  | configInvalid (problems : List Problem)
  | catalogueNotFound
  | catalogueUnreadable
  | catalogueNotMapping
  | catalogueInvalid (problems : List Problem)
  | optionInvalid (problems : List Problem)
  | unknownPlatform (platform known : Text)
  deriving DecidableEq, Repr

namespace InputProblem

/-- The wording of a problem. -/
def text : InputProblem → Text
  | scriptNotFound => "could not find a script at this path"
  | notRegularFile => "not a regular file"
  | sizeOutOfBounds size least greatest =>
    s!"size of {size} bytes is outside the allowed range {least}-{greatest}"
  | scriptUnreadable reason => s!"could not read script: {reason}"
  | directoryNotFound => "directory not found"
  | notDirectory => "not a directory"
  | configNotFound => "config file not found"
  | configUnreadable => "cannot read config"
  | configNotMapping => "config must be a mapping"
  | configInvalid _ => "invalid config"
  | catalogueNotFound => "reference set file not found"
  | catalogueUnreadable => "cannot load reference sets"
  | catalogueNotMapping => "reference set file must contain a mapping"
  | catalogueInvalid _ => "invalid reference sets"
  | optionInvalid _ => "invalid option"
  | unknownPlatform platform known =>
    Text.join "" ["unknown platform '", platform, "' (known: ", known, ")"]

/-- The problems of single fields behind a problem of the input. -/
def details : InputProblem → Option (List Problem)
  | configInvalid ps | catalogueInvalid ps | optionInvalid ps => some ps
  | _ => none

end InputProblem

/-- A problem of the input and the path it concerns. -/
structure InputError where
  /-- The problem. -/
  problem : InputProblem
  /-- The path. -/
  path : Option Path := none
  deriving DecidableEq, Repr

/-- The wording of an error: the path, if there is one, and the problem. -/
def InputError.message (e : InputError) : Text :=
  match e.path with
  | some path => Text.join ": " [path.toText, e.problem.text]
  | none => e.problem.text

/-- A fault that ends the run at once. -/
inductive Breakdown
  /-- A record has a key that is no text. -/
  | keyNotText
  /-- A document is not encoded in UTF-8, or holds a value that cannot be represented. -/
  | document (error : Yaml.YamlError)
  /-- A number has too many digits to be written. -/
  | numberTooLong
  /-- A text with surrogates is to be written. -/
  | notEncodable
  /-- A style mark is closed that is not open, or an event whose parameters have no value. -/
  | unbalancedStyle
  /-- A style mark names a colour of which a component is no number. -/
  | incompleteColour
  /-- The home directory of an unknown user is asked for. -/
  | unknownHome
  /-- A file cannot be written or found, or a directory not be searched. -/
  | file (error : FileError)
  deriving DecidableEq, Repr

/-- What can keep a run from its result. -/
inductive Failure
  | input (error : InputError)
  | breakdown (fault : Breakdown)
  deriving DecidableEq, Repr

/-- The outcome of something that can fail. -/
abbrev Outcome (α : Type) :=
  Except Failure α

/-- Ends the run at once if something cannot be done to a file. -/
def ofFile {α : Type} : Except FileError α → Outcome α
  | .ok a => .ok a
  | .error e => .error (.breakdown (.file e))

/-- Fails with a problem of the input. -/
def refuse {α : Type} (problem : InputProblem) (path : Option Path := none) : Outcome α :=
  .error (.input { problem, path })

end CommandAudit
