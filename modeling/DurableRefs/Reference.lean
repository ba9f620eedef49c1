import DurableRefs.Host

/-!
# Operations on handles

Durable references are made, released and resolved through handles. Each operation asks the host
once. A host that fails has no way to go on, so there are no error results: the only missing
values are a handle to no object and the object behind a weak handle that has been collected.
-/

namespace DurableRefs.Host

variable {m : Type → Type} [Monad m] {Local : Type}

/-- Take over a reference that the host has just made. -/
def adopt (host : Host m Local) (strength : Strength) (raw : Int64) : m Handle := do
  match Handle.ofRaw? raw strength with
  | some h =>
    host.emit (.created h.raw h.strength)
    return h
  | none =>
    host.emit (.exhausted strength)
    host.fatal HostFailure.tableExhausted.message

/-- Make a strong handle to an object. There is none for the null local. -/
def createStrong (host : Host m Local) (x : Local) : m (Option Handle) := do
  if host.isNull x then
    return none
  else
    let raw ← host.newStrong x
    let h ← host.adopt .strong raw
    return some h

/-- Make a weak handle to an object. There is none for the null local. -/
def createWeak (host : Host m Local) (x : Local) : m (Option Handle) := do
  if host.isNull x then
    return none
  else
    let raw ← host.newWeak x
    let h ← host.adopt .weak raw
    return some h

/-- Give up a handle and delete its reference. -/
def release (host : Host m Local) (h : Handle) : m Unit := do
  host.emit (.releasing h.raw h.strength)
  match h.strength with
  | .strong => host.deleteStrong h.raw
  | .weak => host.deleteWeak h.raw

/-- Make a local from a strong handle. -/
def resolve (host : Host m Local) (h : Handle) : m Local := do
  match h.strength with
  | .weak => host.reject (.resolve h)
  | .strong =>
    let x ← host.newLocal h.raw
    if host.isNull x then
      host.emit (.referentLost h.raw)
      host.fatal HostFailure.noLocal.message
    else
      return x

/-- Make a local from a weak handle, unless the referent has been collected. -/
def resolveWeak (host : Host m Local) (h : Handle) : m (Option Local) := do
  match h.strength with
  | .strong => host.reject (.resolveWeak h)
  | .weak =>
    let x ← host.newLocal h.raw
    if host.isNull x then
      host.emit (.referentGone h.raw)
      return none
    else
      return some x

end DurableRefs.Host
