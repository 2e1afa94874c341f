import CommandAudit.Catalogue

/-!
# Classification

The terms of a script pass through sets of known names one after the other. Each set removes the
terms it holds, and the rest goes on to the next set, until nothing is left or no set is.
-/

namespace CommandAudit

/-- How the classification of a script ended. -/
inductive ScanStatus
  /-- There was nothing to classify. -/
  | noTokens
  /-- Every term is known. -/
  | resolved
  /-- Some term is unknown. -/
  | unresolved
  deriving DecidableEq, Repr

/-- The written name of a status. -/
def ScanStatus.label : ScanStatus → String
  | .noTokens => "no_tokens"
  | .resolved => "resolved"
  | .unresolved => "unresolved"

/-- What one set did to the terms. -/
structure Stage where
  /-- The short name of the set. -/
  name : Text
  /-- What the set holds. -/
  label : Text
  /-- The terms that reached the set. -/
  before : List String
  /-- The terms the set holds. -/
  removed : List String
  /-- The terms that go on. -/
  remaining : List String
  deriving DecidableEq, Repr

/-- Passes terms through one set; their order is kept. -/
def KnownNames.applyTo (k : KnownNames) (terms : List String) : Stage :=
  { name := k.name
    label := k.label
    before := terms
    removed := terms.filter k.contains
    remaining := terms.filter fun t => !k.contains t }

/-- Passes terms through sets until no term is left. -/
def runStages (terms : List String) : List KnownNames → List Stage
  | [] => []
  | k :: rest =>
    let stage := k.applyTo terms
    stage :: if stage.remaining.isEmpty then [] else runStages stage.remaining rest

/-- The outcome of a classification. -/
structure Classification where
  /-- How it ended. -/
  status : ScanStatus
  /-- The classified terms. -/
  terms : List String := []
  /-- The stages that ran. -/
  stages : List Stage := []
  /-- The terms that no set holds. -/
  remainder : List String := []
  deriving DecidableEq, Repr

/-- Whether no term is left. -/
def Classification.isResolved (c : Classification) : Bool :=
  c.remainder.isEmpty

/-- Classifies terms by the given sets. -/
def classify (terms : List String) (sets : List KnownNames) : Classification :=
  if terms.isEmpty then { status := .noTokens }
  else
    let stages := runStages terms sets
    let remainder := (stages.getLast?.map Stage.remaining).getD terms
    { status := if remainder.isEmpty then .resolved else .unresolved
      terms, stages, remainder }

end CommandAudit
