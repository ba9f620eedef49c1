import DurableRefs.Text.Number

/-!
# Durable handles

A durable handle names an entry of a host's reference table. It outlives the scope in which it
was made and is passed around as a 64-bit word, in which zero says that there is no handle.
-/

namespace DurableRefs

/-- The two classes of durable references. -/
inductive Strength where
  /-- Keeps the referent reachable until released. -/
  | strong
  /-- Observes the referent without keeping it alive. -/
  | weak
  deriving DecidableEq, Repr

/-- The name of a class of references. -/
def Strength.name : Strength → String
  | strong => "strong"
  | weak => "weak"

/-- The class of references with a given name. -/
def Strength.ofName? (spec : String) : Option Strength :=
  if spec = "strong" then some .strong
  else if spec = "weak" then some .weak
  else none

/-- A class is found again under its name. -/
theorem Strength.ofName?_name (s : Strength) : ofName? s.name = some s := by
  cases s <;> decide

/-- A durable reference and the class that its holder takes it for. Zero is no reference. -/
structure Handle where
  /-- The class of the reference. -/
  strength : Strength
  /-- The word that the host's table knows the reference by. -/
  raw : Int64
  /-- The word is a reference. -/
  raw_ne_zero : raw ≠ 0
  deriving DecidableEq, Repr

namespace Handle

/-- Take a word for a handle. The word zero gives none. -/
def ofRaw? (raw : Int64) (strength : Strength) : Option Handle :=
  if h : raw = 0 then none else some ⟨strength, raw, h⟩

@[simp] theorem ofRaw?_zero (strength : Strength) : ofRaw? 0 strength = none := rfl

/-- A word other than zero gives the handle made of it. -/
theorem ofRaw?_of_ne_zero {raw : Int64} (h : raw ≠ 0) (strength : Strength) :
    ofRaw? raw strength = some ⟨strength, raw, h⟩ := by
  simp [ofRaw?, h]

/-- A handle that a word is taken for has that word and the class it is taken for. -/
theorem ofRaw?_eq_some_iff {raw : Int64} {strength : Strength} {h : Handle} :
    ofRaw? raw strength = some h ↔ h.raw = raw ∧ h.strength = strength := by
  obtain ⟨s, r, hr⟩ := h
  by_cases hraw : raw = 0
  · subst hraw
    simp [hr]
  · simp [ofRaw?_of_ne_zero hraw, eq_comm, and_comm]

/-- A handle is recovered from its own word. -/
@[simp] theorem ofRaw?_raw (h : Handle) : ofRaw? h.raw h.strength = some h :=
  ofRaw?_of_ne_zero h.raw_ne_zero h.strength

/-- The text of a handle: its class and the bits of its word. -/
def text (h : Handle) : String :=
  h.strength.name ++ "#" ++ Text.hexWord h.raw

end Handle

/-- The word for a handle that may be missing. -/
def Handle.toWord : Option Handle → Int64
  | none => 0
  | some h => h.raw

end DurableRefs
