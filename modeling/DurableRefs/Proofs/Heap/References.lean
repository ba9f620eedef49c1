import DurableRefs.Proofs.Heap.Evaluation

/-!
# What the operations on references leave behind

References are made in six ways and looked up in five. The equations here say how each way ends,
with the class of the reference as a parameter wherever the two classes are treated alike.
-/

namespace DurableRefs.Heap

variable {heap : Heap} {env : EnvId} {f : Frames} {id : ObjectId} {raw : Int64} {row : Row}
  {h : Handle} {strength : Strength}

/-! ### Making references -/

/-- Make a reference of a class that is given as data, and nothing else. -/
def makeReference (env : EnvId) : Strength → Local → Task Int64
  | .strong, x => (host env).newStrong x
  | .weak, x => (host env).newWeak x

/-- Make a handle of a class that is given as data. -/
def makeHandle (env : EnvId) : Strength → Local → Task (Option Handle)
  | .strong, x => (host env).createStrong x
  | .weak, x => (host env).createWeak x

/-- A reference is made to an object only. -/
theorem makeReference_null :
    makeReference env strength none heap = ⟨.error (.misuse .nullObject), heap, []⟩ := by
  cases strength <;> simp [makeReference, host, object]

/-- A reference is made to a live object only. -/
theorem makeReference_of_freed (hlive : heap.isLive id = false) :
    makeReference env strength (some id) heap =
      ⟨.error (.misuse (.danglingLocal id)), heap, []⟩ := by
  cases strength <;> simp [makeReference, host, object, hlive]

/-- A full table answers zero. -/
theorem makeReference_of_full (hlive : heap.isLive id = true) (hfull : heap.isFull = true) :
    makeReference env strength (some id) heap = ⟨.ok 0, heap, []⟩ := by
  cases strength <;> simp [makeReference, host, object, hlive, insertReference, hfull]

/-- Where there is room in the table, the reference takes the next word. -/
theorem makeReference_of_room (hlive : heap.isLive id = true) (hroom : heap.isFull = false) :
    makeReference env strength (some id) heap =
      ⟨.ok heap.nextRaw, heap.withReference ⟨strength, id⟩, []⟩ := by
  cases strength <;>
    simp [makeReference, host, object, hlive, insertReference, hroom, withReference]

/-- A handle is a reference that has been adopted. -/
theorem makeHandle_some (env : EnvId) (strength : Strength) (id : ObjectId) :
    makeHandle env strength (some id) =
      (makeReference env strength (some id) >>= (host env).adopt strength) >>=
        fun h => pure (some h) := by
  cases strength <;>
    simp only [makeHandle, makeReference, Host.createStrong, Host.createWeak, bind_assoc] <;> rfl

/-- There is no handle to the null local. -/
theorem makeHandle_null : makeHandle env strength none heap = ⟨.ok none, heap, []⟩ := by
  cases strength <;> simp [makeHandle, Host.createStrong, Host.createWeak, host]

/-- Adopting the word zero ends the host. -/
theorem adopt_zero :
    (host env).adopt strength 0 heap =
      ⟨.error (.fatal HostFailure.tableExhausted.message), heap,
        [.exhausted strength, .aborting env HostFailure.tableExhausted.message]⟩ := by
  simp [Host.adopt, host]

/-- Adopting any other word gives the handle of that word. -/
theorem adopt_of_ne_zero (hraw : raw ≠ 0) :
    (host env).adopt strength raw heap =
      ⟨.ok ⟨strength, raw, hraw⟩, heap, [.created raw strength]⟩ := by
  simp [Host.adopt, Handle.ofRaw?_of_ne_zero hraw, host]

/-- Adopting a word changes nothing. -/
theorem state_adopt (env : EnvId) (strength : Strength) (raw : Int64) (heap : Heap) :
    ((host env).adopt strength raw heap).state = heap := by
  by_cases hraw : raw = 0
  · rw [hraw, adopt_zero]
  · rw [adopt_of_ne_zero hraw]

/-- Making a handle leaves the heap that making the reference leaves. -/
theorem state_makeHandle (env : EnvId) (strength : Strength) (x : Local) (heap : Heap) :
    (makeHandle env strength x heap).state = (makeReference env strength x heap).state := by
  cases x with
  | none => rw [makeHandle_null, makeReference_null]
  | some id =>
    rw [makeHandle_some, Action.bind_pure_apply]
    exact Action.state_bind_of_still (fun raw s => state_adopt env strength raw s) _ heap

/-- A handle is made to a live object only. -/
theorem makeHandle_of_freed (hlive : heap.isLive id = false) :
    makeHandle env strength (some id) heap =
      ⟨.error (.misuse (.danglingLocal id)), heap, []⟩ := by
  simp [makeHandle_some, makeReference_of_freed hlive]

/-- A full table ends the host. -/
theorem makeHandle_of_full (hlive : heap.isLive id = true) (hfull : heap.isFull = true) :
    makeHandle env strength (some id) heap =
      ⟨.error (.fatal HostFailure.tableExhausted.message), heap,
        [.exhausted strength, .aborting env HostFailure.tableExhausted.message]⟩ := by
  simp [makeHandle_some, makeReference_of_full hlive hfull, adopt_zero]

/-- Where there is room in the table, the handle names a new reference under the next word. -/
theorem makeHandle_of_room (hlive : heap.isLive id = true) (hroom : heap.isFull = false)
    (hraw : heap.nextRaw ≠ 0) :
    makeHandle env strength (some id) heap =
      ⟨.ok (some ⟨strength, heap.nextRaw, hraw⟩), heap.withReference ⟨strength, id⟩,
        [.created heap.nextRaw strength]⟩ := by
  simp [makeHandle_some, makeReference_of_room hlive hroom, adopt_of_ne_zero hraw]

/-- When the words have run out, the reference is made under zero and the host ends. -/
theorem makeHandle_of_zero (hlive : heap.isLive id = true) (hroom : heap.isFull = false)
    (hraw : heap.nextRaw = 0) :
    makeHandle env strength (some id) heap =
      ⟨.error (.fatal HostFailure.tableExhausted.message), heap.withReference ⟨strength, id⟩,
        [.exhausted strength, .aborting env HostFailure.tableExhausted.message]⟩ := by
  simp [makeHandle_some, makeReference_of_room hlive hroom, hraw, adopt_zero]

/-! ### Deleting references -/

/-- A word that is no reference cannot be deleted. -/
theorem removeReference_of_dead (hrow : heap.references.get? raw = none) (strength : Strength) :
    removeReference raw strength heap = ⟨.error (.misuse (.deadReference raw)), heap, []⟩ := by
  simp [removeReference, hrow]

/-- A reference is deleted whatever its class; a wrong class is reported afterwards. -/
theorem removeReference_of_row (hrow : heap.references.get? raw = some row)
    (strength : Strength) :
    removeReference raw strength heap =
      ⟨if row.strength = strength then .ok ()
        else .error (.misuse (.wrongClass raw row.strength strength)),
        heap.withoutReference raw, []⟩ := by
  by_cases hs : row.strength = strength <;> simp [removeReference, hrow, hs, withoutReference]

/-- Releasing a handle is reported and deletes its reference. -/
theorem release_eq (env : EnvId) (h : Handle) (heap : Heap) :
    (host env).release h heap =
      ⟨(removeReference h.raw h.strength heap).result,
        (removeReference h.raw h.strength heap).state, [.releasing h.raw h.strength]⟩ := by
  have hnotes : (removeReference h.raw h.strength heap).notes = [] := by
    cases hrow : heap.references.get? h.raw with
    | none => rw [removeReference_of_dead hrow]
    | some row => rw [removeReference_of_row hrow]
  cases hs : h.strength <;> simp [Host.release, host, hs, h.raw_ne_zero] <;> simp_all

/-- The class of a word is the class in the table. -/
theorem classify_eq (env : EnvId) (raw : Int64) (heap : Heap) :
    (host env).classify raw heap =
      ⟨.ok ((heap.references.get? raw).map Row.strength), heap, []⟩ := by
  simp [host]

/-- Zero is not released. -/
theorem unref_zero : (host env).unref 0 heap = ⟨.ok (), heap, []⟩ := by
  simp [Host.unref]

/-- The word of a reference is released with the class that the table has for it. -/
theorem unref_of_row (hraw : raw ≠ 0) (hrow : heap.references.get? raw = some row) :
    (host env).unref raw heap =
      ⟨.ok (), heap.withoutReference raw, [.releasing raw row.strength]⟩ := by
  have hrelease := release_eq env ⟨row.strength, raw, hraw⟩ heap
  simp only [removeReference_of_row hrow, if_true] at hrelease
  simp [Host.unref, hraw, classify_eq, hrow, Handle.ofRaw?_of_ne_zero hraw, hrelease]

/-- Any other word is taken for strong, and the release fails. -/
theorem unref_of_dead (hraw : raw ≠ 0) (hrow : heap.references.get? raw = none) :
    (host env).unref raw heap =
      ⟨.error (.misuse (.deadReference raw)), heap,
        [.unrecognised raw, .releasing raw .strong]⟩ := by
  have hrelease := release_eq env ⟨.strong, raw, hraw⟩ heap
  simp only [removeReference_of_dead hrow] at hrelease
  have hemit : (host env).emit (.unrecognised raw) heap =
      ⟨.ok (), heap, [.unrecognised raw]⟩ := rfl
  simp [Host.unref, hraw, classify_eq, hrow, Handle.ofRaw?_of_ne_zero hraw, hrelease, hemit]

/-! ### Looking references up -/

/-- A word that is no reference has no referent. -/
theorem newLocal_of_dead (hrow : heap.references.get? raw = none) :
    newLocal env raw heap = ⟨.error (.misuse (.deadReference raw)), heap, []⟩ := by
  simp [newLocal, hrow]

/-- A freed referent gives the null local. -/
theorem newLocal_of_freed (hrow : heap.references.get? raw = some row)
    (hlive : heap.isLive row.target = false) :
    newLocal env raw heap = ⟨.ok none, heap, []⟩ := by
  simp [newLocal, hrow, hlive]

/-- A live referent gets a new local in the innermost frame. -/
theorem newLocal_of_live (hrow : heap.references.get? raw = some row)
    (hlive : heap.isLive row.target = true) (hf : heap.attached.get? env = some f) :
    newLocal env raw heap =
      ⟨.ok (some row.target), heap.withFrames env (f.add row.target), []⟩ := by
  simp [newLocal, hrow, hlive, addLocal_of_attached hf]

/-- Without an environment a live referent gets no local. -/
theorem newLocal_of_notAttached (hrow : heap.references.get? raw = some row)
    (hlive : heap.isLive row.target = true) (hf : heap.attached.get? env = none) :
    newLocal env raw heap = ⟨.error (.misuse (.notAttached env)), heap, []⟩ := by
  simp [newLocal, hrow, hlive, addLocal_of_notAttached hf]

/-- A weak handle is not resolved as a strong one. -/
theorem resolve_of_weak (hs : h.strength = .weak) :
    (host env).resolve h heap = ⟨.error (.misapplied (.resolve h)), heap, []⟩ := by
  simp [Host.resolve, hs, host]

/-- A strong handle whose word is no reference is not resolved. -/
theorem resolve_of_dead (hs : h.strength = .strong)
    (hrow : heap.references.get? h.raw = none) :
    (host env).resolve h heap = ⟨.error (.misuse (.deadReference h.raw)), heap, []⟩ := by
  simp [Host.resolve, hs, host, newLocal_of_dead hrow]

/-- A strong handle is resolved to a new local for its referent. -/
theorem resolve_of_live (hs : h.strength = .strong)
    (hrow : heap.references.get? h.raw = some row) (hlive : heap.isLive row.target = true)
    (hf : heap.attached.get? env = some f) :
    (host env).resolve h heap =
      ⟨.ok (some row.target), heap.withFrames env (f.add row.target), []⟩ := by
  simp [Host.resolve, hs, host, newLocal_of_live hrow hlive hf]

/-- A strong handle whose referent has been freed ends the host. -/
theorem resolve_of_freed (hs : h.strength = .strong)
    (hrow : heap.references.get? h.raw = some row) (hlive : heap.isLive row.target = false) :
    (host env).resolve h heap =
      ⟨.error (.fatal HostFailure.noLocal.message), heap,
        [.referentLost h.raw, .aborting env HostFailure.noLocal.message]⟩ := by
  simp [Host.resolve, hs, host, newLocal_of_freed hrow hlive]

/-- Without an environment a live referent of a strong handle gets no local. -/
theorem resolve_of_notAttached (hs : h.strength = .strong)
    (hrow : heap.references.get? h.raw = some row) (hlive : heap.isLive row.target = true)
    (hf : heap.attached.get? env = none) :
    (host env).resolve h heap = ⟨.error (.misuse (.notAttached env)), heap, []⟩ := by
  simp [Host.resolve, hs, host, newLocal_of_notAttached hrow hlive hf]

/-- A strong handle is not resolved as a weak one. -/
theorem resolveWeak_of_strong (hs : h.strength = .strong) :
    (host env).resolveWeak h heap = ⟨.error (.misapplied (.resolveWeak h)), heap, []⟩ := by
  simp [Host.resolveWeak, hs, host]

/-- A weak handle whose word is no reference is not resolved. -/
theorem resolveWeak_of_dead (hs : h.strength = .weak)
    (hrow : heap.references.get? h.raw = none) :
    (host env).resolveWeak h heap = ⟨.error (.misuse (.deadReference h.raw)), heap, []⟩ := by
  simp [Host.resolveWeak, hs, host, newLocal_of_dead hrow]

/-- A weak handle with a live referent is resolved to a new local for it. -/
theorem resolveWeak_of_live (hs : h.strength = .weak)
    (hrow : heap.references.get? h.raw = some row) (hlive : heap.isLive row.target = true)
    (hf : heap.attached.get? env = some f) :
    (host env).resolveWeak h heap =
      ⟨.ok (some (some row.target)), heap.withFrames env (f.add row.target), []⟩ := by
  simp [Host.resolveWeak, hs, host, newLocal_of_live hrow hlive hf]

/-- A weak handle whose referent has been freed is resolved to nothing. -/
theorem resolveWeak_of_freed (hs : h.strength = .weak)
    (hrow : heap.references.get? h.raw = some row) (hlive : heap.isLive row.target = false) :
    (host env).resolveWeak h heap = ⟨.ok none, heap, [.referentGone h.raw]⟩ := by
  simp [Host.resolveWeak, hs, host, newLocal_of_freed hrow hlive]

/-- Without an environment a live referent of a weak handle gets no local. -/
theorem resolveWeak_of_notAttached (hs : h.strength = .weak)
    (hrow : heap.references.get? h.raw = some row) (hlive : heap.isLive row.target = true)
    (hf : heap.attached.get? env = none) :
    (host env).resolveWeak h heap = ⟨.error (.misuse (.notAttached env)), heap, []⟩ := by
  simp [Host.resolveWeak, hs, host, newLocal_of_notAttached hrow hlive hf]

/-- The word of a strong handle is resolved as the handle is. -/
theorem get_of_ne_zero (env : EnvId) (hraw : raw ≠ 0) :
    (host env).get raw = (host env).resolve ⟨.strong, raw, hraw⟩ := by
  simp only [Host.get, Handle.ofRaw?_of_ne_zero hraw]

/-- The word of a weak handle is resolved as the handle is, with null for nothing. -/
theorem getWeak_of_ne_zero (env : EnvId) (hraw : raw ≠ 0) :
    (host env).getWeak raw =
      (host env).resolveWeak ⟨.weak, raw, hraw⟩ >>= fun x => pure (x.getD none) := by
  simp only [Host.getWeak, Handle.ofRaw?_of_ne_zero hraw]
  rfl

/-- A word that is no reference has no object, as a strong handle or as a weak one. -/
theorem get_of_dead (hraw : raw ≠ 0) (hrow : heap.references.get? raw = none) :
    (host env).get raw heap = ⟨.error (.misuse (.deadReference raw)), heap, []⟩ := by
  rw [get_of_ne_zero env hraw]
  exact resolve_of_dead rfl hrow

theorem getWeak_of_dead (hraw : raw ≠ 0) (hrow : heap.references.get? raw = none) :
    (host env).getWeak raw heap = ⟨.error (.misuse (.deadReference raw)), heap, []⟩ := by
  have hweak := @resolveWeak_of_dead heap env ⟨.weak, raw, hraw⟩ rfl hrow
  rw [getWeak_of_ne_zero env hraw, Action.bind_pure_apply, hweak]
  rfl

/-- Resolving a strong handle leaves the heap that the look-up leaves, or the one it found. -/
theorem state_resolve (env : EnvId) (h : Handle) (heap : Heap) :
    ((host env).resolve h heap).state =
      if h.strength = .strong then (newLocal env h.raw heap).state else heap := by
  cases hs : h.strength with
  | weak => simp [resolve_of_weak hs]
  | strong =>
    simp only [Host.resolve, hs, if_true]
    apply Action.state_bind_of_still
    intro x s
    cases x <;> simp [host]

/-- Resolving a weak handle leaves the heap that the look-up leaves, or the one it found. -/
theorem state_resolveWeak (env : EnvId) (h : Handle) (heap : Heap) :
    ((host env).resolveWeak h heap).state =
      if h.strength = .weak then (newLocal env h.raw heap).state else heap := by
  cases hs : h.strength with
  | strong => simp [resolveWeak_of_strong hs]
  | weak =>
    simp only [Host.resolveWeak, hs, if_true]
    apply Action.state_bind_of_still
    intro x s
    cases x <;> simp [host]

end DurableRefs.Heap
