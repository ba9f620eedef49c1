import DurableRefs.Text.Number

/-!
# Elements of a pattern

A pattern can switch how its text is read. Only the three switches matter that decide whether a
text is a pattern at all; the others are known and change nothing here. An element is a single
character of a pattern, or an escape in its place.
-/

namespace DurableRefs.Pattern

/-! ### Modes -/

/-- How the text of a pattern is read. -/
structure Mode where
  /-- Blanks and notes behind a number sign are passed over. -/
  spaced : Bool := false
  /-- Letters match without regard to their case. -/
  caseless : Bool := false
  /-- Classes hold characters, and not bytes. -/
  unicode : Bool := true
  deriving DecidableEq, Repr

/-- The letters of all switches. -/
def switches : List Char := ['i', 'm', 's', 'U', 'u', 'R', 'x']

namespace Mode

/-- A switch after it has been named before the minus sign, behind it, or not at all. -/
def switched (on off : List Char) (letter : Char) (before : Bool) : Bool :=
  if letter ∈ on then true
  else if letter ∈ off then false
  else before

/-- The mode after the switches between a question mark and the end of the switches. Every one
may stand there once, and one minus sign, but not at the end. -/
def read? (mode : Mode) (items : List Char) : Option Mode :=
  let (on, off) := items.span (· != '-')
  if items.Nodup ∧ items.getLast? ≠ some '-' ∧ items.all (fun c => c == '-' || c ∈ switches) then
    some
      { spaced := switched on off 'x' mode.spaced
        caseless := switched on off 'i' mode.caseless
        unicode := switched on off 'u' mode.unicode }
  else
    none

end Mode

/-- A text without the blanks and notes in front of it. A note begins at a number sign and ends
with its line. -/
def dropSpace (inNote : Bool) : List Char → List Char
  | [] => []
  | c :: cs =>
    if inNote then dropSpace (c != '\n') cs
    else if Text.isBlank c then dropSpace false cs
    else if c == '#' then dropSpace true cs
    else c :: cs

/-- The text that is read next. -/
def Mode.skip (mode : Mode) (cs : List Char) : List Char :=
  if mode.spaced then dropSpace false cs else cs

/-- The first character that is neither blank nor the number sign of a note. -/
def firstBeyondSpace (inNote : Bool) : List Char → Option Char
  | [] => none
  | c :: cs =>
    if Text.isBlank c then firstBeyondSpace inNote cs
    else if !inNote && c == '#' then firstBeyondSpace true cs
    else some c

/-- The character that is seen ahead. A note is looked into. -/
def Mode.ahead (mode : Mode) (cs : List Char) : Option Char :=
  if mode.spaced then
    match firstBeyondSpace false cs with
    | some c => some c
    | none => cs.head?
  else
    cs.head?

/-! ### Characters and escapes -/

/-- What a character or an escape stands for. -/
inductive Element where
  /-- A character. `byte` tells that it was written as two hexadecimal digits. -/
  | char (c : Char) (byte : Bool)
  /-- Digits, blanks or the characters of words, or all others. -/
  | kind (negated : Bool)
  /-- A condition on the place. `word` tells that it asks for the edge of a word. -/
  | place (word : Bool)
  deriving DecidableEq, Repr

namespace Element

/-- Whether an element can stand outside a class. No table of the characters in words, of
digits, of blanks or of pairs of letter cases beyond ASCII is at hand, and no bytes can be
matched that are not text. -/
def stands (mode : Mode) : Element → Bool
  | char c byte => if mode.unicode then !mode.caseless else !(byte && 0x80 ≤ c.toNat)
  | kind negated => !mode.unicode && !negated
  | place word => !(word && mode.unicode)

/-- Whether an element can stand in a class. A class of bytes holds ASCII characters only. -/
def standsInClass (mode : Mode) : Element → Bool
  | char c _ => if mode.unicode then !mode.caseless else c.toNat < 0x80
  | kind negated => !mode.unicode && !negated
  | place _ => false

end Element

/-- The characters with a meaning of their own. -/
def marks : List Char :=
  ['\\', '.', '+', '*', '?', '(', ')', '|', '[', ']', '{', '}', '^', '$', '#', '&', '-', '~']

/-- Whether a backslash before a character makes it stand for itself. -/
def isEscapable (c : Char) : Bool :=
  c ∈ marks || (c.toNat < 0x80 && !c.isAlphanum && c != '<' && c != '>')

/-- Read a number of hexadecimal digits into a number read so far. -/
def readDigits (mode : Mode) : Nat → Nat → List Char → Option (Nat × List Char)
  | 0, n, cs => some (n, cs)
  | _ + 1, _, [] => none
  | count + 1, n, c :: cs =>
    (Text.hexDigit? c).bind fun d => readDigits mode count (16 * n + d.toNat) (mode.skip cs)

/-- Read a code point of a number of hexadecimal digits. -/
def readCodePoint? (mode : Mode) (count : Nat) (cs : List Char) : Option (Element × List Char) := do
  let (n, rest) ← readDigits mode count 0 (mode.skip cs)
  if n.isValidChar then some (.char (Char.ofNat n) (count == 2), rest) else none

/-- Read what follows a backslash. -/
def readEscape? (mode : Mode) : List Char → Option (Element × List Char)
  | [] => none
  | c :: rest =>
    match c with
    | 'x' => readCodePoint? mode 2 rest
    | 'u' => readCodePoint? mode 4 rest
    | 'U' => readCodePoint? mode 8 rest
    | 'd' | 's' | 'w' => some (.kind false, rest)
    | 'D' | 'S' | 'W' => some (.kind true, rest)
    | 'a' => some (.char '\x07' false, rest)
    | 'f' => some (.char '\x0C' false, rest)
    | 't' => some (.char '\t' false, rest)
    | 'n' => some (.char '\n' false, rest)
    | 'r' => some (.char '\r' false, rest)
    | 'v' => some (.char '\x0B' false, rest)
    | 'A' | 'z' => some (.place false, rest)
    | 'b' => if rest.head? = some '{' then none else some (.place true, rest)
    | 'B' | '<' | '>' => some (.place true, rest)
    | _ => if isEscapable c then some (.char c false, rest) else none

/-- Read an element that begins with a character. -/
def readElement? (mode : Mode) (c : Char) (rest : List Char) : Option (Element × List Char) :=
  if c = '\\' then readEscape? mode rest else some (.char c false, rest)

end DurableRefs.Pattern
