import CommandAudit.Text.LineEnd
import CommandAudit.Text.Utf8
import CommandAudit.Yaml.Error

/-!
# The characters of a document

A document is read piece by piece, and only as far as it is looked at. A piece with a character that
may not occur, or with bytes that are no text, is an error when it is reached, but not before. So
the text of a document ends either because nothing follows, or because the next piece is faulty.
What may belong to something that follows, such as a carriage return, is held back until then.
-/

namespace CommandAudit.Yaml

/-- Whether `c` may occur in a document. -/
def isAllowed (c : Char) : Bool :=
  let n := c.toNat
  n == 0x09 || n == 0x0A || n == 0x0D || (0x20 ≤ n && n ≤ 0x7E) || n == 0x85 ||
    (0xA0 ≤ n && n ≤ 0xFFFD) || 0x10000 ≤ n

/-- The text of a document as far as it can be read. -/
structure Source where
  /-- The characters before the first faulty piece. -/
  chars : List Char
  /-- What is wrong with the piece that follows; nothing follows if it is absent. -/
  fault : Option YamlError := none
  deriving Repr

namespace Source

/-- The number of bytes that are decoded at a time. -/
def chunkSize : Nat :=
  8192

/-- The number of characters in all pieces but the first, which has twice as many. -/
def pieceSize : Nat :=
  4096

/-- The start of the piece that holds the character with the given index. -/
def pieceStart (index : Nat) : Nat :=
  if index < 2 * pieceSize then 0 else index / pieceSize * pieceSize

/-- Searches the byte at which a sequence is found to be ill-formed; `index` counts the bytes. -/
def faultyByte? (state : Utf8State) (index : Nat) : List UInt8 → Option Nat
  | [] => none
  | b :: rest =>
    let (next, out) := state.step b.toNat
    if out.contains none then some index else faultyByte? next (index + 1) rest

/-- The number of chunks that are decoded before the byte with the given index is found to be
faulty. If a chunk ends inside a surrogate, which is no character, this is found in the next one. -/
def chunksBefore (bytes : List UInt8) (index : Nat) : Nat :=
  let isInSurrogate := bytes[index - 1]? = some 0xED && bytes[index]?.any fun b =>
    0xA0 ≤ b.toNat && b.toNat ≤ 0xBF
  if isInSurrogate then (index + 1) / chunkSize else index / chunkSize

/-- The characters without a carriage return at the end, which waits for what follows. -/
def heldBack (cs : List Char) : List Char :=
  if cs.getLast? = some '\r' then cs.dropLast else cs

/-- The characters that are decoded before bytes are found to be ill-formed, and whether such bytes
follow. Bytes are decoded chunk by chunk, and an incomplete sequence is found at the end. -/
def decoded (bytes : List UInt8) : List Char × Bool :=
  let good (bytes : List UInt8) : List Char := (utf8Run bytes).2.reverse.filterMap id
  match faultyByte? .ready 0 bytes with
  | some index => (heldBack (good (bytes.take (chunksBefore bytes index * chunkSize))), true)
  | none =>
    if (utf8Run bytes).1 = .ready then (good bytes, false) else (heldBack (good bytes), true)

/-- The text of a document given by its bytes. -/
def ofBytes (bytes : List UInt8) : Source :=
  let (cs, illFormed) := decoded bytes
  let cs := unifyLineEnds cs
  let allowed := cs.takeWhile isAllowed
  let size := cs.length
  let decodable := if illFormed then pieceStart size else size
  let readable := if allowed.length < size then pieceStart allowed.length else size
  if illFormed && decodable ≤ readable then ⟨cs.take decodable, some .notUtf8⟩
  else if allowed.length < size then ⟨cs.take readable, some .forbiddenCharacter⟩
  else ⟨cs, none⟩

end Source

end CommandAudit.Yaml
