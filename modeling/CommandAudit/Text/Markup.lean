import CommandAudit.Text.Emoji
import CommandAudit.Text.Style

/-!
# Marked-up text

Text for the terminal may hold style marks in brackets. A mark opens a style, or closes the
innermost open style or the one it names; backslashes in front of a mark make it plain. A mark may
also open an event, whose parameters must have a value when it is closed. Emoji codes are replaced
by emoji. `Markup.plain` gives what is left to read, and `Markup.escape` protects a text that is not
meant to hold marks.
-/

namespace CommandAudit.Markup

/-! ## Marks -/

/-- A part of a marked-up text. -/
inductive Part
  /-- Characters that are shown. -/
  | plain (cs : List Char)
  /-- The text of a mark. -/
  | mark (cs : List Char)
  deriving DecidableEq, Repr

/-- Whether the text of a mark may start with `c`. -/
def startsMark (c : Char) : Bool :=
  c.isLower || c == '#' || c == '/' || c == '@'

/-- The text of the mark at the start of a text, and what follows it. -/
def takeMark? : List Char → Option (List Char × List Char)
  | '[' :: c :: cs =>
    let body := cs.takeWhile fun c => c != '[' && c != ']'
    match cs.drop body.length with
    | ']' :: rest => if startsMark c then some (c :: body, rest) else none
    | _ => none
  | _ => none

/-- A plain part, unless there are no characters. -/
def plainPart (cs : List Char) : List Part :=
  if cs.isEmpty then [] else [.plain cs]

/-- A mark after some backslashes: of two backslashes one is shown, and if one is left over the mark
is plain. -/
def markedPart (backslashes : Nat) (mark : List Char) : List Part :=
  plainPart (List.replicate (backslashes / 2) '\\') ++
    [if backslashes % 2 = 0 then .mark mark else .plain ('[' :: mark ++ [']'])]

/-- The parts of a text; `before` holds the plain characters before it, latest first. Every step
passes a character, so the length of the text bounds the steps. -/
def partsFrom : (fuel : Nat) → (before : List Char) → List Char → List Part
  | 0, before, cs => plainPart (before.reverse ++ cs)
  | _ + 1, before, [] => plainPart before.reverse
  | fuel + 1, before, c :: cs =>
    let backslashes := (c :: cs).takeWhile (· == '\\')
    match takeMark? ((c :: cs).drop backslashes.length) with
    | some (mark, rest) =>
      plainPart before.reverse ++ markedPart backslashes.length mark ++ partsFrom fuel [] rest
    | none =>
      if backslashes.isEmpty then partsFrom fuel (c :: before) cs
      else partsFrom fuel (backslashes ++ before) ((c :: cs).drop backslashes.length)

/-- The parts of a text. -/
def parts (cs : List Char) : List Part :=
  partsFrom cs.length [] cs

/-! ## Plain text -/

/-- Removes backslashes in front of opening brackets; `acc` holds the characters before, latest
first. -/
def unescapeBrackets (acc : List Char) : List Char → List Char
  | '\\' :: '[' :: cs => unescapeBrackets ('[' :: acc) cs
  | c :: cs => unescapeBrackets (c :: acc) cs
  | [] => acc.reverse

/-- Replaces emoji codes. The first `skip` characters belong to a code that was dealt with, and
`acc` holds the characters before, latest first. -/
def replaceEmoji (skip : Nat) (acc : List Char) : List Char → List Char
  | [] => acc.reverse
  | c :: cs =>
    match skip with
    | k + 1 => replaceEmoji k acc cs
    | 0 =>
      let code := if c == ':' then cs.takeWhile fun c => c != ':' && !isBlank c else []
      if c == ':' && (cs.drop code.length).head? = some ':' then
        let shown := (emojiForCode? code).getD (':' :: code ++ [':'])
        replaceEmoji (code.length + 1) (shown.reverse ++ acc) cs
      else replaceEmoji 0 (c :: acc) cs

/-- What is wrong with a marked-up text. -/
inductive Fault
  /-- A style is closed that is not open. -/
  | unbalanced
  /-- An event is closed whose parameters have no value. -/
  | badEvent
  /-- A colour is incomplete. -/
  | incompleteColour
  deriving DecidableEq, Repr

/-- The normal form of the name in a mark. -/
def styleName (name : List Char) : Except Fault String :=
  match Style.normalName name with
  | .ok s => .ok s
  | .error _ => .error .incompleteColour

/-- What a mark opens. -/
structure Opened where
  /-- The name, in normal form. -/
  name : String
  /-- The parameters, if there are any. -/
  parameters : Option (List Char) := none
  deriving DecidableEq, Repr

namespace Opened

/-- Whether it is an event and no style. -/
def isEvent (o : Opened) : Bool :=
  o.name.toList.head? = some '@'

/-- The words of the style. -/
def style (o : Opened) : List Char :=
  o.name.toList ++ o.parameters.elim [] (' ' :: ·)

/-- Whether it can be closed, if `hasValue` tells the parameters of events that have a value. -/
def isClosable (hasValue : List Char → Bool) (o : Opened) : Bool :=
  !o.isEvent || o.parameters.all fun parameters => parameters.isEmpty || hasValue parameters

end Opened

/-- Closes what is innermost, or the innermost with the given name. The result has what is closed
and what stays open. -/
def close (name : List Char) (opened : List Opened) : Except Fault (Opened × List Opened) :=
  match trim name with
  | [] =>
    match opened with
    | [] => .error .unbalanced
    | last :: rest => .ok (last, rest)
  | name => do
    let normal ← styleName name
    match opened.find? (·.name = normal) with
    | some closed => .ok (closed, opened.eraseP (·.name = normal))
    | none => .error .unbalanced

/-- What a marked-up text consists of: the characters that are shown, and the styles that they are
shown in. -/
structure Content where
  /-- The characters. -/
  chars : List Char := []
  /-- The styles, latest first. -/
  styles : List (List Char) := []
  deriving DecidableEq, Repr

section

variable (hasValue : List Char → Bool)

/-- Reads parts, while the given styles and events are open, innermost first; `content` holds what
was read before, with the latest character first. -/
def readParts (opened : List Opened) (content : Content) : List Part → Except Fault Content
  | [] => .ok content
  | .plain cs :: rest =>
    let shown := replaceEmoji 0 [] (unescapeBrackets [] cs)
    readParts opened { content with chars := shown.reverse ++ content.chars } rest
  | .mark cs :: rest => do
    match cs.takeWhile (· != '=') with
    | '/' :: name =>
      let (closed, opened) ← close name opened
      if closed.isClosable hasValue then readParts opened content rest else .error .badEvent
    | name =>
      let normal ← styleName name
      let next : Opened := { name := normal, parameters := (cs.drop name.length).tail? }
      let styles := if next.isEvent then content.styles else next.style :: content.styles
      readParts (next :: opened) { content with styles } rest

/-- What a marked-up text consists of. -/
def read (s : String) : Except Fault Content := do
  let content ← readParts hasValue [] {} (parts s.toList)
  .ok { content with chars := content.chars.reverse }

/-- What is shown of a marked-up text. Every style in it is looked up. -/
def plain (s : String) : Except Fault String := do
  let content ← read hasValue s
  if content.styles.any Style.isIncomplete then .error .incompleteColour
  else .ok (String.ofList content.chars)

end

/-! ## Escaping -/

/-- Puts a backslash in front of every mark, and doubles those that stand there. The fuel bounds the
steps as in `partsFrom`. -/
def escapeFrom : (fuel : Nat) → List Char → List Char
  | 0, cs => cs
  | _ + 1, [] => []
  | fuel + 1, c :: cs =>
    let backslashes := (c :: cs).takeWhile (· == '\\')
    match takeMark? ((c :: cs).drop backslashes.length) with
    | some (mark, rest) =>
      backslashes ++ backslashes ++ '\\' :: '[' :: mark ++ ']' :: escapeFrom fuel rest
    | none =>
      if backslashes.isEmpty then c :: escapeFrom fuel cs
      else backslashes ++ escapeFrom fuel ((c :: cs).drop backslashes.length)

/-- A single backslash at the end is doubled, so that it does not touch a mark that follows. -/
def guardEnd (cs : List Char) : List Char :=
  match cs.reverse with
  | '\\' :: '\\' :: _ => cs
  | '\\' :: _ => cs ++ ['\\']
  | _ => cs

/-- The text with all marks made plain. -/
def escape (s : String) : String :=
  String.ofList (guardEnd (escapeFrom s.length s.toList))

end CommandAudit.Markup
