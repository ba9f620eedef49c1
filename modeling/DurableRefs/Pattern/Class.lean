import DurableRefs.Pattern.Element

/-!
# Classes of a pattern

A class stands between square brackets and holds characters, ranges, named sets, other classes,
and operations on what stands on their two sides. Parts that stand in a row make a part of their own
when they are at least two. What is counted is how deep the parts are nested.
-/

namespace DurableRefs.Pattern

/-! ### Depths of nested parts -/

/-- Parts in a row, by their number and the greatest depth among them. -/
structure Row where
  /-- The number of parts. -/
  count : Nat := 0
  /-- The greatest depth of a part. -/
  deepest : Nat := 0
  deriving DecidableEq, Repr

namespace Row

/-- One more part of some depth. -/
def add (row : Row) (depth : Nat) : Row :=
  ⟨row.count + 1, max row.deepest depth⟩

/-- The depth of the row as a part. -/
def depth (row : Row) : Nat :=
  if row.count ≤ 1 then row.deepest else row.deepest + 1

end Row

/-! ### Classes -/

/-- The names of sets of ASCII characters. -/
def setNames : List String :=
  ["alnum", "alpha", "ascii", "blank", "cntrl", "digit", "graph", "lower", "print", "punct",
    "space", "upper", "word", "xdigit"]

/-- Read a named set behind its opening bracket, and whether it stands for all other
characters. -/
def readNamedSet? : List Char → Option (Bool × List Char)
  | ':' :: cs =>
    let (negated, rest) :=
      match cs with
      | '^' :: rest => (true, rest)
      | _ => (false, cs)
    match rest.span (· != ':') with
    | (name, ':' :: ']' :: after) =>
      if String.ofList name ∈ setNames then some (negated, after) else none
    | _ => none
  | _ => none

/-- Whether a named set can stand in a class. -/
def namedSetStands (mode : Mode) (negated : Bool) : Bool :=
  if mode.unicode then !mode.caseless else !negated

/-- A class of which the closing bracket has not been read. -/
structure OpenClass where
  /-- Whether nothing but minus signs have been read. They stand for themselves there, and so
  does a closing bracket that comes first. -/
  atStart : Bool := true
  /-- The items since the last operation. -/
  items : Row := {}
  /-- The depth of what stands on the left of the last operation. -/
  left : Option Nat := none
  deriving DecidableEq, Repr

namespace OpenClass

/-- One more item of some depth. -/
def add (c : OpenClass) (depth : Nat) : OpenClass :=
  { c with atStart := false, items := c.items.add depth }

/-- The depth of what has been read. An operation is deeper than its two sides. -/
def contents (c : OpenClass) : Nat :=
  match c.left with
  | none => c.items.depth
  | some left => max left c.items.depth + 1

/-- The class behind an operation. -/
def operated (c : OpenClass) : OpenClass :=
  { atStart := false, left := some c.contents }

end OpenClass

/-- Open a class behind its bracket. A class of bytes cannot be turned into its complement. -/
def openClass? (mode : Mode) (cs : List Char) : Option (OpenClass × List Char) :=
  match mode.skip cs with
  | '^' :: rest => if mode.unicode then some ({}, mode.skip rest) else none
  | rest => some ({}, rest)

/-- Read a character, a range, or an escape. A minus sign makes a range unless a closing bracket
or another minus sign follows it. -/
def readItem? (mode : Mode) (c : Char) (rest : List Char) : Option (List Char) := do
  let (first, rest) ← readElement? mode c rest
  if !first.standsInClass mode then none
  else
    match mode.skip rest with
    | '-' :: beyond =>
      if mode.ahead beyond = some ']' ∨ mode.ahead beyond = some '-' then
        some ('-' :: beyond)
      else
        match mode.skip beyond with
        | [] => none
        | c :: rest =>
          let (last, rest) ← readElement? mode c rest
          match first, last with
          | .char low _, .char high _ =>
            if last.standsInClass mode ∧ low ≤ high then some rest else none
          | _, _ => none
    | rest => some rest

/-- Read a class up to its last closing bracket. Its open classes stand innermost first. The
answer is the depth of the class with what follows it. Every step reads a character, of which
there are at most `fuel`. -/
def readClass (mode : Mode) : Nat → OpenClass → List OpenClass → List Char →
    Option (Nat × List Char)
  | 0, _, _, _ => none
  | fuel + 1, inner, outer, cs =>
    match mode.skip cs with
    | [] => none
    | '-' :: rest =>
      if inner.atStart then
        if (Element.char '-' false).standsInClass mode then
          readClass mode fuel { inner.add 0 with atStart := true } outer rest
        else
          none
      else if rest.head? = some '-' then
        readClass mode fuel inner.operated outer rest.tail
      else do
        readClass mode fuel (inner.add 0) outer (← readItem? mode '-' rest)
    | ']' :: rest =>
      if inner.atStart ∧ inner.items.count = 0 then
        if (Element.char ']' false).standsInClass mode then
          readClass mode fuel (inner.add 0) outer rest
        else
          none
      else
        let depth := inner.contents + 1
        match outer with
        | [] => some (depth, rest)
        | next :: outer => readClass mode fuel (next.add depth) outer rest
    | '[' :: rest =>
      match readNamedSet? rest with
      | some (negated, after) =>
        if namedSetStands mode negated then readClass mode fuel (inner.add 0) outer after
        else none
      | none => do
        let (opened, rest) ← openClass? mode rest
        readClass mode fuel opened (inner :: outer) rest
    | '&' :: '&' :: rest => readClass mode fuel inner.operated outer rest
    | '~' :: '~' :: rest => readClass mode fuel inner.operated outer rest
    | c :: rest => do
      readClass mode fuel (inner.add 0) outer (← readItem? mode c rest)

/-- Read a class behind its opening bracket. -/
def readClass? (mode : Mode) (cs : List Char) : Option (Nat × List Char) := do
  let (opened, rest) ← openClass? mode cs
  readClass mode (cs.length + 1) opened [] rest

end DurableRefs.Pattern
