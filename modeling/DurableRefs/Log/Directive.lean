import DurableRefs.Log.Event
import DurableRefs.Pattern.Reader
import DurableRefs.Text.Cut
import DurableRefs.Text.Number

/-!
# Log directives

A directive lets records up to a level pass. It may speak only about the targets that begin with
a given text, and brackets behind that text may narrow it to the records of a span, or to those
that have a field of a given name.
-/

namespace DurableRefs.Log

/-- A bound on the level of records. -/
inductive Bound where
  /-- Nothing passes. -/
  | off
  /-- Records up to a level pass. -/
  | upTo (level : Level)
  deriving DecidableEq, Repr

namespace Bound

/-- Whether a record of a level passes. -/
def allows : Bound → Level → Bool
  | off, _ => false
  | upTo most, level => level.verbosity ≤ most.verbosity

/-- The small-letter names of the bounds. A bound may also be given by its place in this list,
counted from zero. -/
def spellings : List (String × Bound) :=
  [("off", off), ("error", upTo .error), ("warn", upTo .warn), ("info", upTo .info),
    ("debug", upTo .debug), ("trace", upTo .trace)]

/-- The bound that a decimal numeral stands for. A plus sign and zeros may stand in front. -/
def ofNumeral? (cs : List Char) : Option Bound :=
  let digits :=
    match cs with
    | '+' :: rest => rest
    | _ => cs
  if digits ≠ [] ∧ digits.all Char.isDigit then
    (spellings.map Prod.snd)[digits.foldl (fun n c => 10 * n + (c.toNat - '0'.toNat)) 0]?
  else
    none

/-- The bound that a word stands for, by its numeral or by its name in any letter case. -/
def ofChars? (cs : List Char) : Option Bound :=
  match ofNumeral? cs with
  | some bound => some bound
  | none => spellings.lookup (Text.foldCase (String.ofList cs))

end Bound

/-- Whether a record has a field of a name. Its message counts as a field. -/
def Record.hasField (r : Record) (name : String) : Bool :=
  name == "message" || r.fields.any (·.1 == name)

/-- Which records of its targets a directive speaks about. -/
inductive Concern where
  /-- All records. -/
  | every
  /-- The records that have a field of a name. -/
  | having (field : String)
  /-- The records of a span. The library opens no span, so there are none. -/
  | ofSpan
  deriving DecidableEq, Repr

namespace Concern

/-- Whether a record is among those spoken about. -/
def includes : Concern → Record → Bool
  | every, _ => true
  | having field, r => r.hasField field
  | ofSpan, _ => false

/-- The field that is asked for. -/
def field? : Concern → Option String
  | having field => some field
  | _ => none

/-- What a field in braces says, with the name of a span before the braces. A field with a value
belongs to a span, and the value must be a number or a pattern. -/
def ofField? (name field : List Char) : Option Concern :=
  match field.span (· != '=') with
  | ([], []) => none
  | (key, []) => some (if name = [] then having (String.ofList key) else ofSpan)
  | (_, _ :: rest) =>
    let value := rest.takeWhile (· != '=')
    if Text.isNumber value || Pattern.isPattern value then some ofSpan else none

end Concern

/-- A bound for some records. -/
structure Directive where
  /-- How the targets begin. The empty text stands for every target. -/
  scope : List Char
  /-- Which records of the targets are meant. -/
  concern : Concern := .every
  /-- What passes of the records that are meant. -/
  bound : Bound
  deriving DecidableEq, Repr

namespace Directive

/-- Whether a directive speaks about a record. -/
def covers (d : Directive) (r : Record) : Bool :=
  d.scope.isPrefixOf r.target.toList && d.concern.includes r

/-- Whether a directive gives way to a later one where both speak about a record: the longer
scope counts, then the narrower concern, and of two fields the later name. -/
def yieldsTo (earlier later : Directive) : Bool :=
  earlier.scope.length < later.scope.length ||
    earlier.scope.length == later.scope.length &&
      (compare earlier.concern.field? later.concern.field?).isLE

/-- Why a directive cannot be read. -/
inductive Refusal where
  /-- The text is no directive. -/
  | malformed
  /-- A part of it would have to be cut inside a character. -/
  | torn (t : Text.Torn)
  deriving DecidableEq, Repr

/-- The part of a text between two places. -/
def piece (given : List Char) (start stop : Nat) : Except Refusal (List Char) :=
  (Text.cut given start stop).mapError .torn

/-- Read the level that begins in a place. Without a level everything passes. -/
def readBound (given : List Char) (place : Nat) : Except Refusal Bound := do
  match ← piece given place (Text.byteLength given) with
  | [] => return .upTo .trace
  | level => (Bound.ofChars? level).elim (.error .malformed) .ok

/-- Read what stands in brackets: the name of a span, or a field in braces with or without such a
name before it. `cs` begins in the place behind the opening bracket. The answer has the place
behind the closing bracket, and what follows there. -/
def readBrackets (given : List Char) (place : Nat) (cs : List Char) :
    Except Refusal (Concern × Nat × List Char) := do
  let (name, rest) := cs.span fun c => c != ']' && c != '{'
  let behindName := place + Text.byteLength name
  match rest with
  | [] => throw .malformed
  | ']' :: rest =>
    let _ ← piece given place behindName
    return (.ofSpan, behindName + 1, rest)
  | _ :: rest =>
    let name ← piece given place behindName
    let (field, rest) := rest.span (· != '}')
    let behindField := behindName + 1 + Text.byteLength field
    if rest = [] then throw .malformed
    else
      match Concern.ofField? name (← piece given (behindName + 1) behindField), rest.tail with
      | some concern, ']' :: rest => return (concern, behindField + 2, rest)
      | _, _ => throw .malformed

/-- A character with which a directive may begin. -/
def opens (c : Char) : Bool :=
  Text.isAlphanumeric c || c == '-' || c == ':' || c == '_' || c == '['

/-- Read a directive: a level for every target, or a target with brackets behind it or a level
behind an equals sign or both. The places of the parts are found in the text without the blanks
at its two ends, and the parts are cut in the same places out of the text with them. So blanks in
front get into the scope, with which no target begins, and shift every other part. -/
def read (given : List Char) : Except Refusal Directive := do
  let body := Text.trimChars given
  if !body.head?.any opens then throw .malformed
  else
    let (word, rest) := body.span fun c => c != '=' && c != '['
    let behindWord := Text.byteLength word
    match rest with
    | [] =>
      match Bound.ofChars? given with
      | some bound => return ⟨[], .every, bound⟩
      | none => return ⟨given, .every, .upTo .trace⟩
    | '=' :: _ =>
      let scope ← piece given 0 behindWord
      return ⟨scope, .every, ← readBound given (behindWord + 1)⟩
    | _ :: rest =>
      let scope ← piece given 0 behindWord
      let (concern, place, rest) ← readBrackets given (behindWord + 1) rest
      match rest with
      | [] => return ⟨scope, concern, .upTo .trace⟩
      | '=' :: _ => return ⟨scope, concern, ← readBound given (place + 1)⟩
      | _ => throw .malformed

end Directive

end DurableRefs.Log
