/-!
# Arguments of a command

The words of a command line are split into options and plain arguments. A long option may carry its
value after an equal sign, short options may be run together, and `--` ends the options. The value
of an option may itself start with a dash.
-/

namespace CommandAudit

/-- What is wrong with a command line. -/
inductive UsageError
  | missingCommand
  | unknownCommand (name : String)
  | unknownOption (name : String)
  | missingValue (option : String)
  | surplusValue (option : String)
  | missingArgument
  | surplusArguments
  | badValue (option message : String)
  deriving DecidableEq, Repr

/-- The wording of an error. -/
def UsageError.message : UsageError → String
  | .missingCommand => "Missing command."
  | .unknownCommand name => s!"No such command '{name}'."
  | .unknownOption name => s!"No such option: {name}"
  | .missingValue option => s!"Option '{option}' requires an argument."
  | .surplusValue option => s!"Option '{option}' does not take a value."
  | .missingArgument => "Missing argument."
  | .surplusArguments => "Got unexpected extra arguments."
  | .badValue option message => s!"Invalid value for '{option}': {message}"

/-- An option of a command. -/
structure OptionSpec where
  /-- Its long name, without the dashes. -/
  long : String
  /-- Its short name. -/
  short : Option Char := none
  /-- Whether it has a value. -/
  takesValue : Bool := true
  deriving DecidableEq, Repr

/-- The options and plain arguments of a command line. -/
structure Arguments where
  /-- The options by their long names, in order, with their values; empty for options without. -/
  options : List (String × String) := []
  /-- The plain arguments. -/
  plain : List String := []
  deriving DecidableEq, Repr

namespace Arguments

/-- The value of an option; the last one counts. -/
def value? (a : Arguments) (name : String) : Option String :=
  a.options.reverse.lookup name

/-- Whether an option is given. -/
def has (a : Arguments) (name : String) : Bool :=
  (a.value? name).isSome

/-- Adds options at the front. -/
def withOptions (a : Arguments) (options : List (String × String)) : Arguments :=
  { a with options := options ++ a.options }

/-- Options found in one word, and the option whose value is the next word. -/
structure Found where
  /-- The options with their values. -/
  options : List (String × String) := []
  /-- The option whose value is still to come. -/
  pending : Option String := none

/-- Short options run together. -/
def readShort (specs : List OptionSpec) : List Char → Except UsageError Found
  | [] => .ok {}
  | c :: cs =>
    match specs.find? (·.short = some c) with
    | none => .error (.unknownOption (String.ofList ['-', c]))
    | some spec =>
      if spec.takesValue then
        if cs.isEmpty then .ok { pending := some spec.long }
        else .ok { options := [(spec.long, String.ofList cs)] }
      else do
        let found ← readShort specs cs
        .ok { found with options := (spec.long, "") :: found.options }

/-- The name and the value of a long option written with an equal sign. -/
def splitEqual (cs : List Char) : List Char × Option String :=
  (cs.takeWhile (· != '='),
    match cs.dropWhile (· != '=') with
    | [] => none
    | _ :: value => some (String.ofList value))

/-- The options in a word that starts with a dash. -/
def readOption (specs : List OptionSpec) (word : String) : Except UsageError Found :=
  match word.toList with
  | '-' :: '-' :: cs =>
    let (name, value) := splitEqual cs
    let name := String.ofList name
    match specs.find? (·.long = name) with
    | none => .error (.unknownOption word)
    | some spec =>
      match spec.takesValue, value with
      | true, some v => .ok { options := [(name, v)] }
      | true, none => .ok { pending := some name }
      | false, none => .ok { options := [(name, "")] }
      | false, some _ => .error (.surplusValue name)
  | _ :: cs => readShort specs cs
  | [] => .ok {}

/-- Whether a word is an option: it starts with a dash and has more than that. -/
def isOption (word : String) : Bool :=
  word.toList.head? = some '-' && word.toList.tail ≠ []

/-- Splits words into options and plain arguments. -/
def read (specs : List OptionSpec) : List String → Except UsageError Arguments
  | [] => .ok {}
  | word :: rest =>
    if word = "--" then .ok { plain := rest }
    else if isOption word then
      match readOption specs word with
      | .error e => .error e
      | .ok found =>
        match found.pending with
        | none => do
          .ok ((← read specs rest).withOptions found.options)
        | some name =>
          match rest with
          | [] => .error (.missingValue name)
          | value :: rest => do
            .ok ((← read specs rest).withOptions (found.options ++ [(name, value)]))
    else do
      let a ← read specs rest
      .ok { a with plain := word :: a.plain }

end Arguments

end CommandAudit
