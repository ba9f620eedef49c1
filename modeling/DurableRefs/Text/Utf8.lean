/-!
# Reading UTF-8 with replacement

Any list of bytes is read as text. A well-formed sequence becomes its character. A sequence
that breaks off becomes one replacement character for the bytes that could still have been
completed, and reading goes on at the byte that did not fit.
-/

namespace DurableRefs.Text

/-- The character that stands for bytes that are no text. -/
def replacement : Char := '\uFFFD'

/-- A sequence of which some bytes have been read. The next byte must lie between `low` and
`high`, and `more` further bytes follow it. -/
structure Sequence where
  /-- The bits of the code point read so far. -/
  bits : Nat
  /-- The least next byte. -/
  low : UInt8
  /-- The greatest next byte. -/
  high : UInt8
  /-- The number of bytes after the next one. -/
  more : Nat
  deriving DecidableEq, Repr

/-- What a byte means where no sequence is open. -/
inductive Lead where
  /-- The byte is a character of its own. -/
  | single (c : Char)
  /-- The byte opens a sequence. -/
  | opens (s : Sequence)
  /-- The byte opens nothing. -/
  | stray
  deriving DecidableEq, Repr

/-- The classes of first bytes. The bounds on the second byte exclude overlong forms,
surrogates and code points above U+10FFFF. -/
def lead (b : UInt8) : Lead :=
  if b < 0x80 then .single (Char.ofNat b.toNat)
  else if b < 0xC2 then .stray
  else if b < 0xE0 then .opens ⟨b.toNat % 0x20, 0x80, 0xBF, 0⟩
  else if b = 0xE0 then .opens ⟨0, 0xA0, 0xBF, 1⟩
  else if b = 0xED then .opens ⟨0xD, 0x80, 0x9F, 1⟩
  else if b < 0xF0 then .opens ⟨b.toNat % 0x10, 0x80, 0xBF, 1⟩
  else if b = 0xF0 then .opens ⟨0, 0x90, 0xBF, 2⟩
  else if b < 0xF4 then .opens ⟨b.toNat % 0x08, 0x80, 0xBF, 2⟩
  else if b = 0xF4 then .opens ⟨4, 0x80, 0x8F, 2⟩
  else .stray

/-- Whether a byte continues an open sequence. -/
def Sequence.admits (s : Sequence) (b : UInt8) : Bool :=
  s.low ≤ b && b ≤ s.high

/-- The code point bits after one more byte. -/
def Sequence.extend (s : Sequence) (b : UInt8) : Nat :=
  s.bits * 0x40 + b.toNat % 0x40

/-- Read bytes, with a sequence possibly open. Of two bytes that do not fit together, the second
is read afresh. -/
def readFrom : Option Sequence → List UInt8 → List Char
  | none, [] => []
  | some _, [] => [replacement]
  | none, b :: rest =>
    match lead b with
    | .single c => c :: readFrom none rest
    | .opens s => readFrom (some s) rest
    | .stray => replacement :: readFrom none rest
  | some s, b :: rest =>
    if s.admits b then
      match s.more with
      | 0 => Char.ofNat (s.extend b) :: readFrom none rest
      | more + 1 => readFrom (some ⟨s.extend b, 0x80, 0xBF, more⟩) rest
    else
      replacement ::
        match lead b with
        | .single c => c :: readFrom none rest
        | .opens s => readFrom (some s) rest
        | .stray => replacement :: readFrom none rest

/-- The text of any bytes. -/
def decode (bytes : List UInt8) : String :=
  String.ofList (readFrom none bytes)

/-- A sequence that breaks off leaves one replacement character before the rest. -/
theorem readFrom_of_not_admits {s : Sequence} {b : UInt8} {rest : List UInt8}
    (h : s.admits b = false) :
    readFrom (some s) (b :: rest) = replacement :: readFrom none (b :: rest) := by
  simp [readFrom, h]

end DurableRefs.Text
