import DurableRefs.Reference

/-!
# Calls from managed code

Managed callers hold handles as plain 64-bit words. Zero is no handle, and the class of a handle
is known from the function it is passed to or asked of the host. A caller keeps its handles:
nothing here releases one except `unref`.
-/

namespace DurableRefs.Host

variable {m : Type → Type} [Monad m] {Local : Type}

/-- A strong handle to an object as a word; zero for the null local. -/
def newRef (host : Host m Local) (x : Local) : m Int64 := do
  let h ← host.createStrong x
  return Handle.toWord h

/-- A weak handle to an object as a word; zero for the null local. -/
def newWeakRef (host : Host m Local) (x : Local) : m Int64 := do
  let h ← host.createWeak x
  return Handle.toWord h

/-- Release the handle behind a word. The host says of which class it is; one that it does not
know is taken for strong. -/
def unref (host : Host m Local) (raw : Int64) : m Unit := do
  if raw = 0 then
    return
  else
    let known ← host.classify raw
    let strength ← match known with
      | some strength => pure strength
      | none => do
        host.emit (.unrecognised raw)
        pure .strong
    match Handle.ofRaw? raw strength with
    | some h => host.release h
    | none => return

/-- The object behind the word of a strong handle; null for zero. -/
def get (host : Host m Local) (raw : Int64) : m Local := do
  match Handle.ofRaw? raw .strong with
  | some h => host.resolve h
  | none => return host.null

/-- The object behind the word of a weak handle; null for zero and for a collected referent. -/
def getWeak (host : Host m Local) (raw : Int64) : m Local := do
  match Handle.ofRaw? raw .weak with
  | some h =>
    let x ← host.resolveWeak h
    return x.getD host.null
  | none => return host.null

end DurableRefs.Host

namespace DurableRefs

/-- A call from managed code, with locals and words given in some form. -/
inductive ManagedCall (Local Word : Type) where
  /-- Ask for a strong handle. -/
  | newRef (x : Local)
  /-- Ask for a weak handle. -/
  | newWeakRef (x : Local)
  /-- Give a handle up. -/
  | unref (raw : Word)
  /-- Ask for the object behind a strong handle. -/
  | get (raw : Word)
  /-- Ask for the object behind a weak handle. -/
  | getWeak (raw : Word)
  deriving DecidableEq, Repr

/-- What managed code gets back. -/
inductive ManagedAnswer (Local : Type) where
  /-- Nothing. -/
  | done
  /-- A handle as a word. -/
  | word (raw : Int64)
  /-- An object. -/
  | object (x : Local)
  deriving DecidableEq, Repr

/-- Replace the locals and the words of a call by what they stand for. -/
def ManagedCall.mapM {m : Type → Type} [Monad m] {L L' W W' : Type} (onLocal : L → m L')
    (onWord : W → m W') : ManagedCall L W → m (ManagedCall L' W')
  | .newRef x => return .newRef (← onLocal x)
  | .newWeakRef x => return .newWeakRef (← onLocal x)
  | .unref raw => return .unref (← onWord raw)
  | .get raw => return .get (← onWord raw)
  | .getWeak raw => return .getWeak (← onWord raw)

/-- Answer a call from managed code. -/
def Host.answer {m : Type → Type} [Monad m] {Local : Type} (host : Host m Local) :
    ManagedCall Local Int64 → m (ManagedAnswer Local)
  | .newRef x => return .word (← host.newRef x)
  | .newWeakRef x => return .word (← host.newWeakRef x)
  | .unref raw => do
    host.unref raw
    return .done
  | .get raw => return .object (← host.get raw)
  | .getWeak raw => return .object (← host.getWeak raw)

end DurableRefs
