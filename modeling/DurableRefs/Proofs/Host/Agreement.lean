import DurableRefs.Managed

/-!
# Hosts that agree

The library asks its host for everything and does not look behind the answers. So two hosts that
agree on every question agree on every call from managed code. What it means that two actions
agree is a parameter here: it has to be said of returning, of going on, and of the questions.
-/

namespace DurableRefs

variable {m n : Type → Type} [Monad m] [Monad n] {L M W : Type} {Same : L → M → Prop}
  {Alike : {α β : Type} → (α → β → Prop) → m α → n β → Prop} {host : Host m L} {other : Host n M}
  {x : L} {y : M} {h : Handle}

/-- Whether an event is reported by an operation on handles or by a call from managed code, and not
by a host or about something else. -/
def Log.Event.isOwn (e : Log.Event) : Bool :=
  e.record.target = Log.referenceTarget || e.record.target = "globalref::boundary"

/-- Two calls are the same but for the form of their locals. -/
inductive ManagedCall.Matches (Same : L → M → Prop) : ManagedCall L W → ManagedCall M W → Prop
  | newRef {x : L} {y : M} (hxy : Same x y) : Matches Same (.newRef x) (.newRef y)
  | newWeakRef {x : L} {y : M} (hxy : Same x y) : Matches Same (.newWeakRef x) (.newWeakRef y)
  | unref (raw : W) : Matches Same (.unref raw) (.unref raw)
  | get (raw : W) : Matches Same (.get raw) (.get raw)
  | getWeak (raw : W) : Matches Same (.getWeak raw) (.getWeak raw)

/-- Two answers are the same but for the form of their locals. -/
inductive ManagedAnswer.Matches (Same : L → M → Prop) : ManagedAnswer L → ManagedAnswer M → Prop
  | done : Matches Same .done .done
  | word (raw : Int64) : Matches Same (.word raw) (.word raw)
  | object {x : L} {y : M} (hxy : Same x y) : Matches Same (.object x) (.object y)

namespace Host

/-- Two hosts agree on everything that calls from managed code ask of a host. The two parameters
say which locals are the same and which actions agree, given which of their values do. -/
structure Agree (Same : L → M → Prop)
    (Alike : {α β : Type} → (α → β → Prop) → m α → n β → Prop) (host : Host m L)
    (other : Host n M) : Prop where
  /-- Returning agrees if the values do. -/
  pure {α β : Type} {R : α → β → Prop} {a : α} {b : β} (hab : R a b) :
    Alike R (Pure.pure a) (Pure.pure b)
  /-- Going on agrees if it does from values that do. -/
  bind {α β γ δ : Type} {R : α → β → Prop} {S : γ → δ → Prop} {p : m α} {q : n β}
    {f : α → m γ} {g : β → n δ} (hpq : Alike R p q) (hfg : ∀ a b, R a b → Alike S (f a) (g b)) :
    Alike S (p >>= f) (q >>= g)
  /-- Null is the same. -/
  null : Same host.null other.null
  /-- Only null is null. -/
  isNull {x : L} {y : M} (hxy : Same x y) : host.isNull x = other.isNull y
  /-- Strong references to the same object are made under the same word. -/
  newStrong {x : L} {y : M} (hxy : Same x y) : Alike Eq (host.newStrong x) (other.newStrong y)
  /-- Weak references to the same object are made under the same word. -/
  newWeak {x : L} {y : M} (hxy : Same x y) : Alike Eq (host.newWeak x) (other.newWeak y)
  /-- Strong references are deleted alike. -/
  deleteStrong {raw : Int64} (hraw : raw ≠ 0) :
    Alike Eq (host.deleteStrong raw) (other.deleteStrong raw)
  /-- Weak references are deleted alike. -/
  deleteWeak {raw : Int64} (hraw : raw ≠ 0) : Alike Eq (host.deleteWeak raw) (other.deleteWeak raw)
  /-- New locals are the same. -/
  newLocal (raw : Int64) : Alike Same (host.newLocal raw) (other.newLocal raw)
  /-- Words are classified alike. -/
  classify {raw : Int64} (hraw : raw ≠ 0) : Alike Eq (host.classify raw) (other.classify raw)
  /-- The hosts end alike. -/
  fatal {α β : Type} {R : α → β → Prop} (failure : HostFailure) :
    Alike R (host.fatal failure.message) (other.fatal failure.message)
  /-- What operations and calls report is reported alike. -/
  emit {e : Log.Event} (he : e.isOwn = true) : Alike Eq (host.emit e) (other.emit e)

namespace Agree

/-- A reference is adopted alike. -/
theorem adopt (hosts : Agree Same Alike host other) (strength : Strength) (raw : Int64) :
    Alike Eq (host.adopt strength raw) (other.adopt strength raw) := by
  unfold Host.adopt
  cases Handle.ofRaw? raw strength with
  | none => exact hosts.bind (hosts.emit rfl) fun _ _ _ => hosts.fatal .tableExhausted
  | some h => exact hosts.bind (hosts.emit rfl) fun _ _ _ => hosts.pure rfl

/-- Strong handles to the same object are the same. -/
theorem createStrong (hosts : Agree Same Alike host other) (hxy : Same x y) :
    Alike Eq (host.createStrong x) (other.createStrong y) := by
  unfold Host.createStrong
  rw [hosts.isNull hxy]
  split
  · exact hosts.pure rfl
  · refine hosts.bind (hosts.newStrong hxy) ?_
    rintro raw _ rfl
    refine hosts.bind (hosts.adopt .strong raw) ?_
    rintro h _ rfl
    exact hosts.pure rfl

/-- Weak handles to the same object are the same. -/
theorem createWeak (hosts : Agree Same Alike host other) (hxy : Same x y) :
    Alike Eq (host.createWeak x) (other.createWeak y) := by
  unfold Host.createWeak
  rw [hosts.isNull hxy]
  split
  · exact hosts.pure rfl
  · refine hosts.bind (hosts.newWeak hxy) ?_
    rintro raw _ rfl
    refine hosts.bind (hosts.adopt .weak raw) ?_
    rintro h _ rfl
    exact hosts.pure rfl

/-- A handle is released alike. -/
theorem release (hosts : Agree Same Alike host other) (h : Handle) :
    Alike Eq (host.release h) (other.release h) := by
  refine hosts.bind (hosts.emit rfl) fun _ _ _ => ?_
  cases h.strength with
  | strong => exact hosts.deleteStrong h.raw_ne_zero
  | weak => exact hosts.deleteWeak h.raw_ne_zero

/-- A strong handle is resolved to the same local. -/
theorem resolve (hosts : Agree Same Alike host other) (hs : h.strength = .strong) :
    Alike Same (host.resolve h) (other.resolve h) := by
  unfold Host.resolve
  rw [hs]
  refine hosts.bind (hosts.newLocal h.raw) fun x y hxy => ?_
  rw [hosts.isNull hxy]
  split
  · exact hosts.bind (hosts.emit rfl) fun _ _ _ => hosts.fatal .noLocal
  · exact hosts.pure hxy

/-- A weak handle is resolved to the same local, or in both cases to none. -/
theorem resolveWeak (hosts : Agree Same Alike host other) (hs : h.strength = .weak) :
    Alike (Option.Rel Same) (host.resolveWeak h) (other.resolveWeak h) := by
  unfold Host.resolveWeak
  rw [hs]
  refine hosts.bind (hosts.newLocal h.raw) fun x y hxy => ?_
  rw [hosts.isNull hxy]
  split
  · exact hosts.bind (hosts.emit rfl) fun _ _ _ => hosts.pure .none
  · exact hosts.pure (.some hxy)

/-- Managed code gets the same word for a strong handle. -/
theorem newRef (hosts : Agree Same Alike host other) (hxy : Same x y) :
    Alike Eq (host.newRef x) (other.newRef y) :=
  hosts.bind (hosts.createStrong hxy) fun _ _ hh => hosts.pure (congrArg Handle.toWord hh)

/-- Managed code gets the same word for a weak handle. -/
theorem newWeakRef (hosts : Agree Same Alike host other) (hxy : Same x y) :
    Alike Eq (host.newWeakRef x) (other.newWeakRef y) :=
  hosts.bind (hosts.createWeak hxy) fun _ _ hh => hosts.pure (congrArg Handle.toWord hh)

/-- The handle of a word is released alike, if it has one. -/
theorem release_ofRaw? (hosts : Agree Same Alike host other) (raw : Int64) :
    ∀ strength strength', strength = strength' → Alike Eq
      (match Handle.ofRaw? raw strength with
        | some h => host.release h
        | none => Pure.pure ())
      (match Handle.ofRaw? raw strength' with
        | some h => other.release h
        | none => Pure.pure ()) := by
  rintro strength _ rfl
  cases Handle.ofRaw? raw strength with
  | none => exact hosts.pure rfl
  | some h => exact hosts.release h

/-- A reference is given up alike. -/
theorem unref (hosts : Agree Same Alike host other) (raw : Int64) :
    Alike Eq (host.unref raw) (other.unref raw) := by
  have hrelease := hosts.release_ofRaw? raw
  unfold Host.unref
  split
  · exact hosts.pure rfl
  · next hraw =>
    refine hosts.bind (hosts.classify hraw) ?_
    rintro known _ rfl
    cases known with
    | some strength => exact hosts.bind (hosts.pure rfl) hrelease
    | none => exact hosts.bind (hosts.emit rfl) fun _ _ _ => hosts.bind (hosts.pure rfl) hrelease

/-- The object behind a strong handle is the same. -/
theorem get (hosts : Agree Same Alike host other) (raw : Int64) :
    Alike Same (host.get raw) (other.get raw) := by
  unfold Host.get
  cases hh : Handle.ofRaw? raw .strong with
  | none => exact hosts.pure hosts.null
  | some h => exact hosts.resolve (Handle.ofRaw?_eq_some_iff.mp hh).2

/-- The object behind a weak handle is the same. -/
theorem getWeak (hosts : Agree Same Alike host other) (raw : Int64) :
    Alike Same (host.getWeak raw) (other.getWeak raw) := by
  unfold Host.getWeak
  cases hh : Handle.ofRaw? raw .weak with
  | none => exact hosts.pure hosts.null
  | some h =>
    refine hosts.bind (hosts.resolveWeak (Handle.ofRaw?_eq_some_iff.mp hh).2) ?_
    rintro _ _ (hxy | _)
    · exact hosts.pure hxy
    · exact hosts.pure hosts.null

/-- Calls from managed code are answered alike. -/
theorem answer {call : ManagedCall L Int64} {call' : ManagedCall M Int64}
    (hosts : Agree Same Alike host other) (hcall : call.Matches Same call') :
    Alike (ManagedAnswer.Matches Same) (host.answer call) (other.answer call') := by
  cases hcall with
  | newRef hxy =>
    refine hosts.bind (hosts.newRef hxy) ?_
    rintro raw _ rfl
    exact hosts.pure (.word raw)
  | newWeakRef hxy =>
    refine hosts.bind (hosts.newWeakRef hxy) ?_
    rintro raw _ rfl
    exact hosts.pure (.word raw)
  | unref raw => exact hosts.bind (hosts.unref raw) fun _ _ _ => hosts.pure .done
  | get raw => exact hosts.bind (hosts.get raw) fun _ _ hxy => hosts.pure (.object hxy)
  | getWeak raw => exact hosts.bind (hosts.getWeak raw) fun _ _ hxy => hosts.pure (.object hxy)

end Agree

end Host

end DurableRefs
