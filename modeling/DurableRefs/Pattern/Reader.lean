import DurableRefs.Pattern.Class
import DurableRefs.Text.Alphanumeric

/-!
# Patterns

A pattern is a regular expression without counted repetitions, look-around and references. A
text is one when it can be read to its end and is not nested too deep.
-/

namespace DurableRefs.Pattern

/-- How deep a pattern may be nested. -/
def depthLimit : Nat := 250

/-- A group of which the closing bracket has not been read, or the whole pattern. -/
structure OpenGroup where
  /-- The mode in the group. -/
  mode : Mode := {}
  /-- The branches that are over. -/
  branches : Row := {}
  /-- The parts of the branch that is being read. -/
  parts : Row := {}
  /-- The depth of the last part, if it can be repeated. -/
  last : Option Nat := none
  deriving DecidableEq, Repr

namespace OpenGroup

/-- One more part of some depth. -/
def add (g : OpenGroup) (depth : Nat) : OpenGroup :=
  { g with parts := g.parts.add depth, last := some depth }

/-- The group after a change of its mode. The change is a part that cannot be repeated. -/
def switch (g : OpenGroup) (mode : Mode) : OpenGroup :=
  { g with mode := mode, parts := g.parts.add 0, last := none }

/-- The group at the beginning of its next branch. -/
def branch (g : OpenGroup) : OpenGroup :=
  { g with branches := g.branches.add g.parts.depth, parts := {}, last := none }

/-- The group with its last part repeated. -/
def repeated? (g : OpenGroup) : Option OpenGroup :=
  g.last.map fun depth =>
    { g with
      parts := { g.parts with deepest := max g.parts.deepest (depth + 1) }
      last := some (depth + 1) }

/-- The depth of what has been read. -/
def contents (g : OpenGroup) : Nat :=
  (g.branches.add g.parts.depth).depth

end OpenGroup

/-- Whether a character may stand in the name of a group. -/
def isNameChar (first : Bool) (c : Char) : Bool :=
  if first then c == '_' || Text.isAlphabetic c
  else c == '_' || c == '.' || c == '[' || c == ']' || Text.isAlphanumeric c

/-- Whether a text is the name of a group. -/
def isName : List Char → Bool
  | [] => false
  | c :: cs => isNameChar true c && cs.all (isNameChar false)

/-- What stands behind an opening bracket. -/
inductive Opening where
  /-- A group that is read in a mode, and its name if it has one. -/
  | group (mode : Mode) (name : Option (List Char))
  /-- A change of the mode up to the end of the group around it. -/
  | switch (mode : Mode)
  deriving DecidableEq, Repr

/-- Read the name of a group up to its closing bracket. -/
def readName? (mode : Mode) (cs : List Char) : Option (Opening × List Char) :=
  match cs.span (· != '>') with
  | (name, _ :: rest) => if isName name then some (.group mode (some name), rest) else none
  | _ => none

/-- Read what makes up an opening bracket. -/
def readOpening? (mode : Mode) (cs : List Char) : Option (Opening × List Char) :=
  match mode.skip cs with
  | '?' :: 'P' :: '<' :: rest => readName? mode rest
  | '?' :: '<' :: rest =>
    if rest.head? = some '=' ∨ rest.head? = some '!' then none else readName? mode rest
  | '?' :: rest =>
    match rest.span fun c => c != ':' && c != ')' with
    | (items, ':' :: rest) => (mode.read? items).map (.group · none, rest)
    | (items, ')' :: rest) =>
      if items = [] then none else (mode.read? items).map (.switch ·, rest)
    | _ => none
  | rest => some (.group mode none, rest)

/-- Read a pattern to its end. Its open groups stand innermost first, and the names of its groups
must differ. The answer is its depth. Every step reads a character, of which there are fewer than
`fuel`. -/
def readGroups : Nat → OpenGroup → List OpenGroup → List (List Char) → List Char → Option Nat
  | 0, _, _, _, _ => none
  | fuel + 1, inner, outer, names, cs =>
    match inner.mode.skip cs with
    | [] => if outer.isEmpty then some inner.contents else none
    | '(' :: rest => do
      match ← readOpening? inner.mode rest with
      | (.switch mode, rest) => readGroups fuel (inner.switch mode) outer names rest
      | (.group mode none, rest) =>
        readGroups fuel { mode := mode } (inner :: outer) names rest
      | (.group mode (some name), rest) =>
        if name ∈ names then none
        else readGroups fuel { mode := mode } (inner :: outer) (name :: names) rest
    | ')' :: rest =>
      match outer with
      | [] => none
      | next :: outer => readGroups fuel (next.add (inner.contents + 1)) outer names rest
    | '|' :: rest => readGroups fuel inner.branch outer names rest
    | '[' :: rest => do
      let (depth, rest) ← readClass? inner.mode rest
      readGroups fuel (inner.add depth) outer names rest
    | '{' :: _ => none
    | '.' :: rest =>
      if inner.mode.unicode then readGroups fuel (inner.add 0) outer names rest else none
    | c :: rest =>
      if c = '?' ∨ c = '*' ∨ c = '+' then do
        let rest := if rest.head? = some '?' then rest.tail else rest
        readGroups fuel (← inner.repeated?) outer names rest
      else if c = '^' ∨ c = '$' then
        readGroups fuel (inner.add 0) outer names rest
      else do
        let (element, rest) ← readElement? inner.mode c rest
        if element.stands inner.mode then readGroups fuel (inner.add 0) outer names rest
        else none

/-- The depth of a pattern, if a text can be read as one. -/
def depth? (cs : List Char) : Option Nat :=
  readGroups (cs.length + 1) {} [] [] cs

/-- Whether a text is a pattern. -/
def isPattern (cs : List Char) : Bool :=
  match depth? cs with
  | some depth => depth ≤ depthLimit
  | none => false

end DurableRefs.Pattern
