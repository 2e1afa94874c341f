/-!
# UTF-8

Decoding bytes to characters. `decodeUtf8?` refuses ill-formed bytes, and `decodeUtf8Lossy` replaces
every maximal ill-formed part by U+FFFD. A sequence of bytes is well formed if its lead byte allows
the second byte and the rest are continuation bytes.
-/

namespace CommandAudit

/-- The replacement character. -/
def replacementChar : Char :=
  '\uFFFD'

/-- What a lead byte asks for: the number of bytes that follow it, and the range of the first of
them. -/
structure Utf8Lead where
  /-- The number of bytes that follow. -/
  more : Nat
  /-- The least second byte. -/
  low : Nat
  /-- The greatest second byte. -/
  high : Nat
  /-- The bits of the lead byte that belong to the character. -/
  bits : Nat

/-- What the lead byte `b` asks for, unless it cannot start a character. -/
def utf8Lead? (b : Nat) : Option Utf8Lead :=
  if b < 0x80 then some ⟨0, 0, 0, b⟩
  else if 0xC2 ≤ b ∧ b ≤ 0xDF then some ⟨1, 0x80, 0xBF, b - 0xC0⟩
  else if b = 0xE0 then some ⟨2, 0xA0, 0xBF, 0⟩
  else if b = 0xED then some ⟨2, 0x80, 0x9F, 0xD⟩
  else if 0xE1 ≤ b ∧ b ≤ 0xEF then some ⟨2, 0x80, 0xBF, b - 0xE0⟩
  else if b = 0xF0 then some ⟨3, 0x90, 0xBF, 0⟩
  else if 0xF1 ≤ b ∧ b ≤ 0xF3 then some ⟨3, 0x80, 0xBF, b - 0xF0⟩
  else if b = 0xF4 then some ⟨3, 0x80, 0x8F, 4⟩
  else none

/-- The state of a decoder between two bytes. -/
inductive Utf8State
  /-- Between two characters. -/
  | ready
  /-- Inside a character: its bits so far, how many bytes are missing and the range of the next. -/
  | inside (bits more low high : Nat)
  deriving DecidableEq, Repr

/-- Reads a lead byte; `none` stands for an ill-formed part. -/
def Utf8State.start (b : Nat) : Utf8State × List (Option Char) :=
  match utf8Lead? b with
  | none => (.ready, [none])
  | some ⟨0, _, _, bits⟩ => (.ready, [some (Char.ofNat bits)])
  | some ⟨more, low, high, bits⟩ => (.inside bits more low high, [])

/-- Reads one byte. A byte that cannot continue the present character ends an ill-formed part and
is read as a lead byte. -/
def Utf8State.step (state : Utf8State) (b : Nat) : Utf8State × List (Option Char) :=
  match state with
  | .ready => start b
  | .inside bits more low high =>
    if low ≤ b ∧ b ≤ high then
      let bits := bits * 64 + (b - 0x80)
      if more ≤ 1 then (.ready, [some (Char.ofNat bits)])
      else (.inside bits (more - 1) 0x80 0xBF, [])
    else
      let (next, out) := start b
      (next, none :: out)

/-- What is left to say at the end of the bytes. -/
def Utf8State.finish : Utf8State → List (Option Char)
  | .ready => []
  | .inside .. => [none]

/-- The characters of bytes, latest first, with `none` for every maximal ill-formed part. -/
def utf8Run (bytes : List UInt8) : Utf8State × List (Option Char) :=
  bytes.foldl (fun (state, out) b =>
    let (next, new) := state.step b.toNat
    (next, new.reverse ++ out)) (.ready, [])

/-- The characters of bytes, with `none` for every maximal ill-formed part. -/
def utf8Chars (bytes : List UInt8) : List (Option Char) :=
  let (state, out) := utf8Run bytes
  (state.finish ++ out).reverse

/-- The characters of bytes, each ill-formed part replaced by U+FFFD. -/
def decodeUtf8Lossy (bytes : List UInt8) : List Char :=
  (utf8Chars bytes).map fun c => c.getD replacementChar

/-- The characters of well-formed bytes. -/
def decodeUtf8? (bytes : List UInt8) : Option (List Char) :=
  (utf8Chars bytes).mapM id

/-- The bytes of a text. -/
def encodeUtf8 (cs : List Char) : List UInt8 :=
  cs.flatMap String.utf8EncodeChar

end CommandAudit
