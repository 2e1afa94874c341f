import CommandAudit.Text.Integer
import CommandAudit.Text.Quoted
import CommandAudit.Text.Utf8
import CommandAudit.Value

/-!
# Checking untyped data

A check turns untyped data into a typed value or lists every problem with its place. Checks of
several fields run side by side, so that one report names all problems of a record, in the order
of the fields.
-/

namespace CommandAudit

/-! ## Problems -/

/-- A step from a value to one of its parts. -/
inductive Place
  /-- To a named part. -/
  | name (s : String)
  /-- To a numbered part. -/
  | index (n : Int)
  deriving DecidableEq, Repr

/-- What is wrong with a value. -/
inductive Fault
  /-- A text is expected. -/
  | notText
  /-- Bytes that are no text, or a text with surrogates. -/
  | notUnicode
  /-- An integer is expected. -/
  | notInteger
  /-- A text that is no integer. -/
  | notNumeral
  /-- A number with a fraction. -/
  | fractional
  /-- A number that is not finite. -/
  | notFinite
  /-- A number that is too large to be read as an integer. -/
  | tooLarge
  /-- An integer below its minimum. -/
  | belowMinimum
  /-- None of the possible words. -/
  | notAllowed
  /-- A list is expected. -/
  | notList
  /-- A pair is expected. -/
  | notPair
  /-- Too many items. -/
  | tooLong
  /-- A required part is missing. -/
  | missing
  /-- A mapping is expected. -/
  | notMapping
  /-- A record is expected. -/
  | notRecord
  /-- A path is expected. -/
  | notPath
  /-- A function is expected. -/
  | notFunction
  /-- Parts that are fine by themselves do not go together. -/
  | inconsistent (explanation : String)
  deriving DecidableEq, Repr

/-- A fault and its place, from the outside inwards. -/
structure Problem where
  /-- The way to the faulty value. -/
  places : List Place := []
  /-- What is wrong. -/
  fault : Fault
  deriving DecidableEq, Repr

/-- The outcome of a check. -/
inductive Checked (α : Type)
  | valid (value : α)
  | invalid (problems : List Problem)
  deriving Repr

namespace Checked

/-- Fails with one fault at the value itself. -/
def fail {α : Type} (fault : Fault) : Checked α :=
  .invalid [{ fault }]

/-- Applies a function to a valid value. -/
def map {α β : Type} (f : α → β) : Checked α → Checked β
  | .valid a => .valid (f a)
  | .invalid ps => .invalid ps

/-- Combines two checks; the problems of both are kept. -/
def seq {α β : Type} (f : Checked (α → β)) (a : Checked α) : Checked β :=
  match f, a with
  | .valid f, .valid a => .valid (f a)
  | .valid _, .invalid ps => .invalid ps
  | .invalid ps, .valid _ => .invalid ps
  | .invalid ps, .invalid qs => .invalid (ps ++ qs)

instance : Applicative Checked where
  pure := .valid
  map := map
  seq f a := seq f (a ())

/-- Checks a valid value further. -/
def andThen {α β : Type} (a : Checked α) (check : α → Checked β) : Checked β :=
  match a with
  | .valid a => check a
  | .invalid ps => .invalid ps

/-- Reports the problems of a part under its place. -/
def under {α : Type} (place : Place) : Checked α → Checked α
  | .valid a => .valid a
  | .invalid ps => .invalid (ps.map fun p => { p with places := place :: p.places })

/-- Combines the checks of a list. -/
def all {α : Type} : List (Checked α) → Checked (List α)
  | [] => .valid []
  | c :: rest => (c.map List.cons).seq (all rest)

/-- The valid value, if there is one. -/
def toOption {α : Type} : Checked α → Option α
  | .valid a => some a
  | .invalid _ => none

end Checked

/-! ## Checks of single values -/

namespace Check

/-- The bound below which an integer counts as small: `2 ^ 63`. -/
def smallBound : Int :=
  9223372036854775808

/-- The integer an integral number stands for. -/
def integerOfReal (x : Binary64) : Checked Int :=
  if !x.isFinite then .fail .notFinite
  else
    match x.toInt? with
    | none => .fail .fractional
    | some n => if -smallBound < n ∧ n < smallBound then .valid n else .fail .tooLarge

/-- The integer written in a text. -/
def integerOfText (cs : List Char) : Checked Int :=
  match Numeral.read cs with
  | .value n => .valid n
  | .malformed => .fail .notNumeral
  | .tooLong => .fail .tooLarge

/-- An integer, or something that stands for one. -/
def integer : Value → Checked Int
  | .int n => .valid n
  | .bool b => .valid (if b then 1 else 0)
  | .real x => integerOfReal x
  | .undefined _ => .fail .notFinite
  | .text (.string s) => integerOfText s.toList
  | .text (.broken _) => .fail .notUnicode
  | .bytes bs =>
    match decodeUtf8? bs with
    | some cs => integerOfText cs
    | none => .fail .notNumeral
  | _ => .fail .notInteger

/-- An integer not below `least`. -/
def integerFrom (least : Int) (v : Value) : Checked Int :=
  (integer v).andThen fun n => if n < least then .fail .belowMinimum else .valid n

/-- A text. -/
def text : Value → Checked Text
  | .text t => .valid t
  | .bytes bs =>
    match decodeUtf8? bs with
    | some cs => .valid (String.ofList cs)
    | none => .fail .notUnicode
  | _ => .fail .notText

/-- One of a few words, which `ofWord?` knows. -/
def word {α : Type} (ofWord? : String → Option α) (v : Value) : Checked α :=
  let found (s : String) : Checked α := (ofWord? s).elim (.fail .notAllowed) .valid
  match v with
  | .text (.string s) => found s
  | .text (.broken _) => .fail .notUnicode
  | .bytes bs => (decodeUtf8? bs).elim (.fail .notAllowed) fun cs => found (String.ofList cs)
  | _ => .fail .notAllowed

/-- Nothing, or a value that passes the given check. -/
def optional {α : Type} (check : Value → Checked α) : Value → Checked (Option α)
  | .null => .valid none
  | v => (check v).map some

/-- Checks every item of a list under its number. -/
def items {α : Type} (check : Value → Checked α) (vs : List Value) : Checked (List α) :=
  .all (vs.zipIdx.map fun (v, i) => (check v).under (.index i))

/-- A list of values that pass the given check. -/
def list {α : Type} (check : Value → Checked α) : Value → Checked (List α)
  | .list vs | .set vs => items check vs
  | _ => .fail .notList

/-- A pair of integers. -/
def integerPair : Value → Checked (Int × Int)
  | .list [] | .set [] =>
    .invalid [⟨[.index 0], .missing⟩, ⟨[.index 1], .missing⟩]
  | .list [a] | .set [a] =>
    Prod.mk <$> (integer a).under (.index 0) <*> (Checked.fail .missing).under (.index 1)
  | .list [a, b] | .set [a, b] =>
    Prod.mk <$> (integer a).under (.index 0) <*> (integer b).under (.index 1)
  | .list _ | .set _ => .fail .tooLong
  | _ => .fail .notPair

/-! ## Checks of mappings -/

/-- The written form of a distance from universal time, in minutes. -/
def offsetText (minutes : Int) : String :=
  if minutes = 0 then "datetime.timezone.utc"
  else
    let days := if minutes < 0 then "days=-1, " else ""
    s!"datetime.timezone(datetime.timedelta({days}seconds={60 * (minutes % 1440)}))"

/-- The written form of a time. Seconds and millionths are left out if they are zero, but not in
front of a part that is written. -/
def instantText (d : Date) (t : DayTime) : String :=
  let clock :=
    if t.fraction ≠ 0 then [t.hour, t.minute, t.second, t.fraction]
    else if t.second ≠ 0 then [t.hour, t.minute, t.second]
    else [t.hour, t.minute]
  let numbers := ([d.year, d.month, d.day] ++ clock).map toString
  let zone := t.offset.toList.map fun minutes => "tzinfo=" ++ offsetText minutes
  "datetime.datetime(" ++ String.intercalate ", " (numbers ++ zone) ++ ")"

/-- The written form of a key that is neither a text nor a small integer. -/
def keyText : Value → String
  | .null => "None"
  | .int n => (integerText? n).getD "<unprintable int object>"
  | .real x => x.toText
  | .undefined _ => Binary64.nan.toText
  | .bytes bs => quotedBytes bs
  | .date d => s!"datetime.date({d.year}, {d.month}, {d.day})"
  | .instant d t => instantText d t
  | _ => ""

/-- The place of the entry with the given key. -/
def keyPlace : Value → Place
  | .text t => .name t.lossy
  | .bool b => .index (if b then 1 else 0)
  | .int n => if -smallBound ≤ n ∧ n < smallBound then .index n else .name (keyText (.int n))
  | v => .name (keyText v)

/-- A mapping from texts to values that pass the given check. Keys that stand for the same text are
one key. -/
def mapping {α : Type} (check : Value → Checked α) : Value → Checked (List (Text × α))
  | .mapping entries =>
    let checked : Checked (List (Text × α)) := .all (entries.map fun (k, v) =>
      (Prod.mk <$> (text k).under (.name "[key]") <*> check v).under (keyPlace k))
    checked.map (distinctEntries id)
  | _ => .fail .notMapping

/-- The value of the named field of a record. -/
def field? {ν : Type} (entries : List (Value × ν)) (name : String) : Option ν :=
  (entries.find? fun e => e.1.sameKey (.text name)).map Prod.snd

/-- A field that may be left out. -/
def fieldOr {ν α : Type} (entries : List (Value × ν)) (name : String) (default : α)
    (check : ν → Checked α) : Checked α :=
  match field? entries name with
  | some v => (check v).under (.name name)
  | none => .valid default

/-- A field that may not be left out. -/
def requiredField {α : Type} (entries : List (Value × Value)) (name : String)
    (check : Value → Checked α) : Checked α :=
  match field? entries name with
  | some v => (check v).under (.name name)
  | none => (Checked.fail .missing).under (.name name)

end Check

end CommandAudit
