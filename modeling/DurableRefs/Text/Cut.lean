import DurableRefs.Text.Quoted

/-!
# Parts of a text

The parts of a text between the places where a given character stands, and its lines. A part can
also be cut out between two places that are counted in the bytes of the UTF-8 form, unless one of
them falls inside a character.
-/

namespace DurableRefs.Text

/-! ### Splitting -/

/-- The parts between the occurrences of a character. There is always one more part than there
are occurrences. -/
def split (mark : Char) : List Char → List (List Char)
  | [] => [[]]
  | c :: cs =>
    if c = mark then [] :: split mark cs
    else
      match split mark cs with
      | [] => [[c]]
      | part :: rest => (c :: part) :: rest

/-- A part without the carriage return at its end. -/
def chomp (cs : List Char) : List Char :=
  if cs.getLast? = some '\r' then cs.dropLast else cs

/-- The lines of a text. A line ends with a line feed, which a carriage return may precede. -/
def lines (cs : List Char) : List (List Char) :=
  (split '\n' cs).map chomp

/-! ### Cuts between bytes -/

/-- An end of a part. -/
inductive Edge where
  /-- Where the part begins. -/
  | start
  /-- Where the part ends. -/
  | stop
  deriving DecidableEq, Repr

/-- The word for an end of a part. -/
def Edge.name : Edge → String
  | start => "start"
  | stop => "end"

/-- A place that falls inside a character. -/
structure Torn where
  /-- The end of the part that was to be cut there. -/
  edge : Edge
  /-- The place. -/
  place : Nat
  /-- The character. -/
  char : Char
  /-- The place where the character begins. -/
  charPlace : Nat
  deriving DecidableEq, Repr

/-- What is said about a place inside a character. -/
def Torn.message (t : Torn) : String :=
  t.edge.name ++ " byte index " ++ toString t.place ++
    " is not a char boundary; it is inside '" ++ String.ofList (escapeChar t.char) ++ "' (bytes " ++
    toString t.charPlace ++ ".." ++ toString (t.charPlace + t.char.utf8Size) ++ " of string)"

/-- The number of bytes of a text. -/
def byteLength : List Char → Nat
  | [] => 0
  | c :: cs => c.utf8Size + byteLength cs

/-- The character that a place falls inside, and where it begins. The text begins at `offset`. -/
def tornAt? (place offset : Nat) : List Char → Option (Char × Nat)
  | [] => none
  | c :: cs =>
    if place ≤ offset then none
    else if place < offset + c.utf8Size then some (c, offset)
    else tornAt? place (offset + c.utf8Size) cs

/-- The characters of a text that begins at `offset` which lie between two places. -/
def between (start stop offset : Nat) : List Char → List Char
  | [] => []
  | c :: cs =>
    let rest := between start stop (offset + c.utf8Size) cs
    if start ≤ offset ∧ offset < stop then c :: rest else rest

/-- Cut out the part between two places. If both fall inside characters, the first one is
told. -/
def cut (cs : List Char) (start stop : Nat) : Except Torn (List Char) :=
  match tornAt? start 0 cs, tornAt? stop 0 cs with
  | some (c, charPlace), _ => .error ⟨.start, start, c, charPlace⟩
  | none, some (c, charPlace) => .error ⟨.stop, stop, c, charPlace⟩
  | none, none => .ok (between start stop 0 cs)

end DurableRefs.Text
