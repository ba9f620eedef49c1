import DurableRefs.Log.Backend
import DurableRefs.Log.Directive

/-!
# Log filters

A filter is a list of directives. The one that speaks most closely about a record decides
whether it passes. The filters of this kind and the two layouts of lines make up a backend, with
which the library can be run.
-/

namespace DurableRefs.Log

/-! ### Filters -/

/-- Directives, of which the last counts among those of the same scope and concern. -/
structure Filter where
  /-- The directives in the order they were given. -/
  directives : List Directive
  deriving DecidableEq, Repr

namespace Filter

/-- Read directives between commas. The first bad directive spoils the text; empty parts do not
count. -/
def read (spec : String) : Except Directive.Refusal Filter := do
  let parts := (Text.split ',' spec.toList).filter (· ≠ [])
  return ⟨← parts.mapM Directive.read⟩

/-- Of two directives in the order they were given, the one that counts. -/
def prefer (best : Option Directive) (d : Directive) : Option Directive :=
  match best with
  | none => some d
  | some b => if b.yieldsTo d then some d else some b

/-- The directive that decides about a record. -/
def deciding (f : Filter) (r : Record) : Option Directive :=
  (f.directives.filter (·.covers r)).foldl prefer none

/-- Whether a record passes. What no directive covers does not. -/
def allows (f : Filter) (r : Record) : Bool :=
  match f.deciding r with
  | none => false
  | some d => d.bound.allows r.level

end Filter

/-! ### Lines -/

/-- A value in a readable line. -/
def Value.text : Value → String
  | number n => toString n
  | shown text => text
  | quoted text => Text.quoted text

/-- The level word, moved to the right in a column of five. -/
def Level.column (level : Level) : String :=
  String.ofList (List.replicate (5 - level.heading.length) ' ') ++ level.heading

/-- A record as one readable text. A value with a line break in it makes this more than one
line. -/
def Record.text (r : Record) (time thread : String) : String :=
  time ++ " " ++ r.level.column ++ " " ++ thread ++ " " ++ r.target ++ ": " ++ r.message ++
    String.join (r.fields.map fun field => " " ++ field.1 ++ "=" ++ field.2.text)

/-- The lines of a record in a layout. The time is shown as `T` and the thread as
`ThreadId(N)`. -/
def Record.lines (format : Format) (r : Record) : List Line :=
  match format with
  | .json => [.object r]
  | _ =>
    (Text.lines (r.text "T" "ThreadId(N)").toList).map fun cs => .text (String.ofList cs)

/-! ### The backend -/

/-- Read a specification that is given as bytes. Bytes that are no text specify no filter. -/
def Filter.readBytes (bytes : List UInt8) : Except Unread Filter :=
  match String.fromUTF8? ⟨bytes.toArray⟩ with
  | none => .error .refused
  | some spec =>
    match read spec with
    | .ok filter => .ok filter
    | .error .malformed => .error .refused
    | .error (.torn t) => .error (.brokenOff t.message)

/-- The backend whose filters are lists of directives. A text that specifies no filter stands for
the one that lets nothing pass. -/
def Filter.backend : Backend Filter where
  read
    | none => .error .refused
    | some bytes => readBytes bytes
  ofText text := (read text).toOption.getD ⟨[]⟩
  allows := allows
  lines := Record.lines

end DurableRefs.Log
