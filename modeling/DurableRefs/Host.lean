import DurableRefs.Log.Event

/-!
# Hosts

A host owns objects and a table of durable references to them. Code attached to a host works on
locals, which name objects within a scope, and asks the host for everything else. A scope is a
frame, which is opened, filled with locals, and closed again; then its locals are gone.
-/

namespace DurableRefs

/-- A handle of the wrong class was given to an operation. -/
inductive Misapplied where
  /-- A handle that is not strong was to be resolved as a strong one. -/
  | resolve (h : Handle)
  /-- A handle that is not weak was to be resolved as a weak one. -/
  | resolveWeak (h : Handle)
  deriving DecidableEq, Repr

/-- The wording of a misapplication. -/
def Misapplied.message : Misapplied → String
  | resolve h => "resolve called with " ++ h.text
  | resolveWeak h => "resolve_weak called with " ++ h.text

/-- The failures of a host after which nothing can go on. -/
inductive HostFailure where
  /-- The host could make no further durable reference. -/
  | tableExhausted
  /-- The host could make no local from a strong reference. -/
  | noLocal
  /-- The host could not open a local frame. -/
  | noFrame
  deriving DecidableEq, Repr

/-- The wording of a failure. -/
def HostFailure.message : HostFailure → String
  | tableExhausted => "globalref: reference table exhausted"
  | noLocal => "globalref: could not create a local reference from a strong global"
  | noFrame => "globalref: could not push a local frame"

/-- One attachment to a host, by what can be asked of it. `Local` is the type of its locals, and
`m` says what its answers depend on and change. Durable references are words, and zero is none. -/
structure Host (m : Type → Type) (Local : Type) where
  /-- The local that names no object. -/
  null : Local
  /-- Whether a local names no object. -/
  isNull : Local → Bool
  /-- Make a strong reference to an object; zero if there is no room. -/
  newStrong : Local → m Int64
  /-- Make a weak reference to an object; zero if there is no room. -/
  newWeak : Local → m Int64
  /-- Delete a strong reference. -/
  deleteStrong : Int64 → m Unit
  /-- Delete a weak reference. -/
  deleteWeak : Int64 → m Unit
  /-- Make a local from a reference; null if the referent has been collected. -/
  newLocal : Int64 → m Local
  /-- The class of a reference, if the word is one. -/
  classify : Int64 → m (Option Strength)
  /-- Open a local frame with room for some locals; false if the host cannot. -/
  pushFrame : Int32 → m Bool
  /-- Close the innermost local frame. The given local is carried into the frame around it. -/
  popFrame : Local → m Local
  /-- End the host. -/
  fatal : {α : Type} → String → m α
  /-- Stop because a handle does not fit. -/
  reject : {α : Type} → Misapplied → m α
  /-- Report an event. -/
  emit : Log.Event → m Unit

/-! ### Local frames -/

namespace Host

variable {m : Type → Type} [Monad m] {Local : Type}

/-- The number of locals for which a frame has room unless its opener says otherwise. -/
def defaultCapacity : Int32 := 16

/-- Open a frame. A host that cannot do so has failed. -/
def openFrame (host : Host m Local) (capacity : Int32) : m Unit := do
  let opened ← host.pushFrame capacity
  if opened then
    return
  else
    host.emit (.frameRefused capacity)
    host.fatal HostFailure.noFrame.message

/-- Close the innermost frame and carry nothing out. -/
def closeFrame (host : Host m Local) : m Unit := do
  let _ ← host.popFrame host.null
  return

/-- Close the innermost frame and carry a local out; the answer is the local in the frame
around it. -/
def closeFrameWith (host : Host m Local) (x : Local) : m Local :=
  host.popFrame x

end Host

end DurableRefs
