import DurableRefs.Proofs.Action
import DurableRefs.Proofs.Heap.Exchange
import DurableRefs.Proofs.Heap.Rooted
import DurableRefs.Proofs.Heap.Slots

/-!
# When operations fail, and what they leave then

Whether an operation on references fails can be told beforehand from the table of references and
from the objects that have been freed. An operation that fails has changed nothing, unless it
deletes a reference as one of the other class: then that reference is gone.
-/

namespace DurableRefs.Heap

open DurableRefs.Action (CleanAt)

variable {heap : Heap} {env : EnvId} {f : Frames} {id : ObjectId} {raw : Int64} {row : Row}
  {h : Handle} {strength : Strength} {x : Local} {fault : Fault}
  {operation : Operation Local Handle Int64} {capacity : Option Nat} {steps : List Step}

/-! ### Conditions -/

/-- An operation fails if it is performed in an environment. -/
def Fails (heap : Heap) (env : EnvId) (operation : Operation Local Handle Int64) : Prop :=
  ∃ fault, (operation.perform env heap).result = .error fault

/-- The reference of a word is weak and its referent has been freed. -/
def IsGone (heap : Heap) (raw : Int64) : Prop :=
  ∃ row, heap.references.get? raw = some row ∧ row.strength = .weak ∧
    heap.isLive row.target = false

/-- The table of references has a limit and holds as many rows as that. -/
def IsExhausted (heap : Heap) : Prop :=
  ∃ max, heap.capacity = some max ∧ heap.references.size = max

/-- As long as the words last, a table has no place left when it holds as many rows as it may. -/
theorem isFull_after_iff
    (hwords : (made (history (fresh capacity) steps)).length < 2 ^ 64 - 1) :
    (after (fresh capacity) steps).isFull = true ↔ (after (fresh capacity) steps).IsExhausted := by
  have hslots := slots_eq_size hwords
  rw [isFull_iff, IsExhausted, capacity_after]
  refine exists_congr fun max => and_congr_right fun hcapacity => ?_
  subst hcapacity
  have hle : (after (fresh (some max)) steps).slots ≤ max := slots_le_capacity steps
  omega

/-- An operation that puts the value of an action into its answer fails when the action does. -/
theorem fails_iff {α : Type} {task : Task α} {form : α → Answer}
    (hform : operation.perform env = task >>= fun a => pure (form a)) :
    heap.Fails env operation ↔ ∃ fault, (task heap).result = .error fault := by
  rw [Fails, hform]
  exact exists_congr fun fault => Action.result_bind_pure_eq_error_iff

/-- Managed code is told nothing when a word has been released. -/
theorem Operation.perform_unref (env : EnvId) (raw : Int64) :
    (Operation.managed (.unref raw)).perform env =
      (host env).unref raw >>= fun _ => pure .done := by
  simp [Operation.perform, Host.answer, Answer.ofManaged]

/-- Managed code is given the local that a word resolves to. -/
theorem Operation.perform_get (env : EnvId) (raw : Int64) :
    (Operation.managed (.get raw)).perform env =
      (host env).get raw >>= fun x => pure (.object x) := by
  simp [Operation.perform, Host.answer, Answer.ofManaged]

/-- Managed code is given the local that the word of a weak handle resolves to. -/
theorem Operation.perform_getWeak (env : EnvId) (raw : Int64) :
    (Operation.managed (.getWeak raw)).perform env =
      (host env).getWeak raw >>= fun x => pure (.object x) := by
  simp [Operation.perform, Host.answer, Answer.ofManaged]

/-! ### Handles and their words -/

/-- A handle is refused to an object that has been freed, and when there is no place left. -/
theorem makeHandle_fails_iff (hraw : heap.nextRaw ≠ 0) :
    (∃ fault, (makeHandle env strength (some id) heap).result = .error fault) ↔
      heap.isLive id = false ∨ heap.isFull = true := by
  cases hlive : heap.isLive id with
  | false => simp [makeHandle_of_freed hlive]
  | true =>
    cases hfull : heap.isFull with
    | true => simp [makeHandle_of_full hlive hfull]
    | false => simp [makeHandle_of_room hlive hfull hraw]

/-- In an attached environment a handle is resolved as a strong one if it is strong, has a row, and
the referent of the row is there. A strong row always has its referent. -/
theorem resolve_fails_iff (hroots : heap.RootsLive) (hf : heap.attached.get? env = some f) :
    (∃ fault, ((host env).resolve h heap).result = .error fault) ↔
      h.strength = .weak ∨ heap.references.get? h.raw = none ∨ heap.IsGone h.raw := by
  cases hs : h.strength with
  | weak => simp [resolve_of_weak hs]
  | strong =>
    cases hrow : heap.references.get? h.raw with
    | none => simp [resolve_of_dead hs hrow]
    | some row =>
      cases hlive : heap.isLive row.target with
      | true => simp [resolve_of_live hs hrow hlive hf, IsGone, hrow, hlive]
      | false =>
        have hweak : row.strength = .weak := by
          cases hr : row.strength with
          | weak => rfl
          | strong =>
            have hroot : heap.isLive row.target = true :=
              hroots _ (.inr ⟨h.raw, row, hrow, hr, rfl⟩)
            simp [hroot] at hlive
        simp [resolve_of_freed hs hrow hlive, IsGone, hrow, hlive, hweak]

/-- In an attached environment a handle is resolved as a weak one if it is weak and has a row. -/
theorem resolveWeak_fails_iff (hf : heap.attached.get? env = some f) :
    (∃ fault, ((host env).resolveWeak h heap).result = .error fault) ↔
      h.strength = .strong ∨ heap.references.get? h.raw = none := by
  cases hs : h.strength with
  | strong => simp [resolveWeak_of_strong hs]
  | weak =>
    cases hrow : heap.references.get? h.raw with
    | none => simp [resolveWeak_of_dead hs hrow]
    | some row =>
      cases hlive : heap.isLive row.target with
      | true => simp [resolveWeak_of_live hs hrow hlive hf]
      | false => simp [resolveWeak_of_freed hs hrow hlive]

/-- A handle is released if it has a row of its own class. -/
theorem release_fails_iff :
    (∃ fault, ((host env).release h heap).result = .error fault) ↔
      heap.references.get? h.raw = none ∨
        ∃ row, heap.references.get? h.raw = some row ∧ row.strength ≠ h.strength := by
  rw [release_eq]
  cases hrow : heap.references.get? h.raw with
  | none => simp [removeReference_of_dead hrow]
  | some row =>
    by_cases hs : row.strength = h.strength <;> simp [removeReference_of_row hrow, hs]

/-- A word is released if it is zero or has a row. -/
theorem unref_fails_iff :
    (∃ fault, ((host env).unref raw heap).result = .error fault) ↔
      raw ≠ 0 ∧ heap.references.get? raw = none := by
  by_cases hraw : raw = 0
  · simp [hraw, unref_zero]
  · cases hrow : heap.references.get? raw with
    | none => simp [unref_of_dead hraw hrow, hraw]
    | some row => simp [unref_of_row hraw hrow]

/-- The word of a strong handle is resolved if it is zero, or has a row and a referent. -/
theorem get_fails_iff (hroots : heap.RootsLive) (hf : heap.attached.get? env = some f) :
    (∃ fault, ((host env).get raw heap).result = .error fault) ↔
      raw ≠ 0 ∧ (heap.references.get? raw = none ∨ heap.IsGone raw) := by
  by_cases hraw : raw = 0
  · simp [hraw, Host.get]
  · rw [get_of_ne_zero env hraw, resolve_fails_iff hroots hf]
    simp [hraw]

/-- The word of a weak handle is resolved if it is zero or has a row. -/
theorem getWeak_fails_iff (hf : heap.attached.get? env = some f) :
    (∃ fault, ((host env).getWeak raw heap).result = .error fault) ↔
      raw ≠ 0 ∧ heap.references.get? raw = none := by
  by_cases hraw : raw = 0
  · simp [hraw, Host.getWeak]
  · simp only [getWeak_of_ne_zero env hraw, Action.result_bind_pure_eq_error_iff]
    rw [resolveWeak_fails_iff hf]
    simp [hraw]

/-! ### Handles of the wrong class -/

/-- A strong handle is not refused for its class when it is resolved as a strong one. -/
theorem resolve_ne_misapplied (hs : h.strength = .strong) (hf : heap.attached.get? env = some f)
    (m : Misapplied) : ((host env).resolve h heap).result ≠ .error (.misapplied m) := by
  cases hrow : heap.references.get? h.raw with
  | none => simp [resolve_of_dead hs hrow]
  | some row =>
    cases hlive : heap.isLive row.target with
    | true => simp [resolve_of_live hs hrow hlive hf]
    | false => simp [resolve_of_freed hs hrow hlive]

/-- A weak handle is not refused for its class when it is resolved as a weak one. -/
theorem resolveWeak_ne_misapplied (hs : h.strength = .weak)
    (hf : heap.attached.get? env = some f) (m : Misapplied) :
    ((host env).resolveWeak h heap).result ≠ .error (.misapplied m) := by
  cases hrow : heap.references.get? h.raw with
  | none => simp [resolveWeak_of_dead hs hrow]
  | some row =>
    cases hlive : heap.isLive row.target with
    | true => simp [resolveWeak_of_live hs hrow hlive hf]
    | false => simp [resolveWeak_of_freed hs hrow hlive]

/-- Making a handle takes none, so none can have the wrong class. -/
theorem makeHandle_ne_misapplied (hraw : heap.nextRaw ≠ 0) (strength : Strength) (x : Local)
    (m : Misapplied) : (makeHandle env strength x heap).result ≠ .error (.misapplied m) := by
  intro hfault
  rcases fault_of_makeHandle hraw hfault with h | ⟨id, h⟩ <;> cases h

/-- A word is released with the class that the table has for it. -/
theorem unref_ne_misapplied (raw : Int64) (m : Misapplied) :
    ((host env).unref raw heap).result ≠ .error (.misapplied m) := by
  by_cases hraw : raw = 0
  · simp [hraw, unref_zero]
  · cases hrow : heap.references.get? raw with
    | none => simp [unref_of_dead hraw hrow]
    | some row => simp [unref_of_row hraw hrow]

/-- Managed code is never told that a handle has the wrong class: a word is taken for a handle of
the class that is asked for. -/
theorem managed_ne_misapplied (hraw : heap.nextRaw ≠ 0) (hf : heap.attached.get? env = some f)
    (call : ManagedCall Local Int64) (m : Misapplied) :
    ((Operation.managed call).perform env heap).result ≠ .error (.misapplied m) := by
  intro hresult
  cases call with
  | newRef x =>
    rw [Operation.perform_newRef, Action.result_bind_pure_eq_error_iff] at hresult
    exact makeHandle_ne_misapplied hraw .strong x m hresult
  | newWeakRef x =>
    rw [Operation.perform_newWeakRef, Action.result_bind_pure_eq_error_iff] at hresult
    exact makeHandle_ne_misapplied hraw .weak x m hresult
  | unref raw =>
    rw [Operation.perform_unref, Action.result_bind_pure_eq_error_iff] at hresult
    exact unref_ne_misapplied raw m hresult
  | get raw =>
    rw [Operation.perform_get, Action.result_bind_pure_eq_error_iff] at hresult
    by_cases hzero : raw = 0
    · simp [hzero, Host.get] at hresult
    · rw [get_of_ne_zero env hzero] at hresult
      exact resolve_ne_misapplied rfl hf m hresult
  | getWeak raw =>
    rw [Operation.perform_getWeak, Action.result_bind_pure_eq_error_iff] at hresult
    by_cases hzero : raw = 0
    · simp [hzero, Host.getWeak] at hresult
    · rw [getWeak_of_ne_zero env hzero, Action.result_bind_pure_eq_error_iff] at hresult
      exact resolveWeak_ne_misapplied rfl hf m hresult

/-! ### The exact conditions -/

/-- The operations on references fail in an environment under the conditions that follow and no
others. -/
structure FailsExactly (heap : Heap) (env : EnvId) : Prop where
  /-- A handle, or its word, is refused to a freed object and when the table is exhausted. -/
  create : ∀ id, ∀ operation ∈ handleRequests id,
    heap.Fails env operation ↔ heap.isLive id = false ∨ heap.IsExhausted
  /-- A handle is resolved if it is strong and has a row, unless the row is weak and its referent
  freed. -/
  resolve : ∀ h, heap.Fails env (.resolve h) ↔
    h.strength = .weak ∨ heap.references.get? h.raw = none ∨ heap.IsGone h.raw
  /-- A handle is resolved as a weak one if it is weak and has a row. -/
  resolveWeak : ∀ h, heap.Fails env (.resolveWeak h) ↔
    h.strength = .strong ∨ heap.references.get? h.raw = none
  /-- A handle is released if it has a row of its class. -/
  release : ∀ h, heap.Fails env (.release h) ↔
    heap.references.get? h.raw = none ∨
      ∃ row, heap.references.get? h.raw = some row ∧ row.strength ≠ h.strength
  /-- A word is released if it is zero or has a row. -/
  unref : ∀ raw, heap.Fails env (.managed (.unref raw)) ↔
    raw ≠ 0 ∧ heap.references.get? raw = none
  /-- A word is resolved as that of a weak handle if it is zero or has a row. -/
  getWeak : ∀ raw, heap.Fails env (.managed (.getWeak raw)) ↔
    raw ≠ 0 ∧ heap.references.get? raw = none
  /-- A word is resolved as that of a strong handle if it is zero, or has a row, unless the row is
  weak and its referent freed. -/
  get : ∀ raw, heap.Fails env (.managed (.get raw)) ↔
    raw ≠ 0 ∧ (heap.references.get? raw = none ∨ heap.IsGone raw)
  /-- Managed code is never told that a handle has the wrong class. -/
  managed : ∀ call m,
    ((Operation.managed call).perform env heap).result ≠ .error (.misapplied m)
  /-- Resolving a strong reference never ends the host. -/
  strong : ∀ (h : Handle) (row : Row), heap.references.get? h.raw = some row →
    row.strength = .strong → ∀ operation ∈ [Operation.resolve h, .managed (.get h.raw)],
      ∀ reason, (operation.perform env heap).result ≠ .error (.fatal reason)

/-- A strong row has its referent, so neither its handle nor its word ends the host. -/
theorem resolve_ne_fatal (hroots : heap.RootsLive) (hf : heap.attached.get? env = some f)
    (hrow : heap.references.get? h.raw = some row) (hstrong : row.strength = .strong)
    (reason : String) : ((host env).resolve h heap).result ≠ .error (.fatal reason) := by
  have hlive : heap.isLive row.target = true := hroots _ (.inr ⟨h.raw, row, hrow, hstrong, rfl⟩)
  cases hs : h.strength with
  | weak => simp [resolve_of_weak hs]
  | strong => simp [resolve_of_live hs hrow hlive hf]

/-- As long as the words last, the operations on references fail exactly under the listed
conditions, in every environment that is attached. -/
theorem operations_fail_exactly (capacity : Option Nat) (steps : List Step)
    (hwords : (made (history (fresh capacity) steps)).length < 2 ^ 64 - 1) (env : EnvId)
    (hattached : (after (fresh capacity) steps).attached.contains env = true) :
    (after (fresh capacity) steps).FailsExactly env := by
  have hraw := nextRaw_ne_zero hwords
  have hroots := rootsLive_after capacity steps
  obtain ⟨f, hf⟩ := Option.isSome_iff_exists.mp hattached
  refine
    { create := ?_
      resolve := fun h => (fails_iff rfl).trans (resolve_fails_iff hroots hf)
      resolveWeak := fun h => (fails_iff rfl).trans (resolveWeak_fails_iff hf)
      release := fun h => (fails_iff rfl).trans release_fails_iff
      unref := fun raw => (fails_iff (Operation.perform_unref env raw)).trans unref_fails_iff
      getWeak := fun raw =>
        (fails_iff (Operation.perform_getWeak env raw)).trans (getWeak_fails_iff hf)
      get := fun raw => (fails_iff (Operation.perform_get env raw)).trans (get_fails_iff hroots hf)
      managed := managed_ne_misapplied hraw hf
      strong := ?_ }
  · intro id operation hoperation
    obtain ⟨strength, form, hform⟩ := perform_of_mem_handleRequests hoperation env
    rw [fails_iff hform, makeHandle_fails_iff hraw, isFull_after_iff hwords]
  · intro h row hrow hstrong operation hoperation reason hfatal
    rcases List.mem_pair.mp hoperation with rfl | rfl
    · have hresolve := Action.result_bind_pure_eq_error_iff.mp hfatal
      exact resolve_ne_fatal hroots hf hrow hstrong reason hresolve
    · rw [Operation.perform_get, Action.result_bind_pure_eq_error_iff,
        get_of_ne_zero env h.raw_ne_zero] at hfatal
      exact resolve_ne_fatal (h := ⟨.strong, h.raw, h.raw_ne_zero⟩) hroots hf hrow hstrong reason
        hfatal

/-- The word of a weak handle whose object has been collected: managed code gets the null local for
it as that of a weak handle, and ends the host as that of a strong one. -/
theorem collected_referent_fails_as_strong :
    (made (history (fresh none)
      [.attach, .operate 1 (.alloc "a"), .operate 1 (.createWeak (some 1)),
        .operate 1 (.deleteLocal (some 1)), .collect])).length < 2 ^ 64 - 1 ∧
    (after (fresh none)
      [.attach, .operate 1 (.alloc "a"), .operate 1 (.createWeak (some 1)),
        .operate 1 (.deleteLocal (some 1)), .collect]).attached.contains 1 = true ∧
    (after (fresh none)
      [.attach, .operate 1 (.alloc "a"), .operate 1 (.createWeak (some 1)),
        .operate 1 (.deleteLocal (some 1)), .collect]).Fails 1 (.managed (.get 1)) ∧
    ¬ (after (fresh none)
      [.attach, .operate 1 (.alloc "a"), .operate 1 (.createWeak (some 1)),
        .operate 1 (.deleteLocal (some 1)), .collect]).Fails 1 (.managed (.getWeak 1)) := by
  have hexact := operations_fail_exactly none
    [.attach, .operate 1 (.alloc "a"), .operate 1 (.createWeak (some 1)),
      .operate 1 (.deleteLocal (some 1)), .collect] (by decide) 1 (by decide)
  refine ⟨by decide, by decide, (hexact.get 1).mpr ⟨by decide, .inr ⟨⟨.weak, 1⟩, ?_⟩⟩, ?_⟩
  · decide
  · exact mt (hexact.getWeak 1).mp (by decide)

/-! ### What a failed operation leaves -/

/-- A local is deleted or refused. -/
theorem cleanAt_deleteLocal (env : EnvId) (x : Local) (heap : Heap) :
    (deleteLocal env x).CleanAt heap := by
  cases x with
  | none => exact CleanAt.of_ok rfl
  | some id =>
    cases hf : heap.attached.get? env with
    | none => exact CleanAt.of_stop (deleteLocal_of_notAttached hf id)
    | some f =>
      cases hg : f.remove? id with
      | none => exact CleanAt.of_stop (deleteLocal_of_unknown hf hg)
      | some g => exact CleanAt.of_ok (deleteLocal_of_remove? hf hg)

/-- A frame is opened or refused. -/
theorem cleanAt_pushFrame (env : EnvId) (capacity : Int32) (heap : Heap) :
    (pushFrame env capacity).CleanAt heap := by
  by_cases hc : capacity < 0
  · exact CleanAt.of_ok (pushFrame_of_neg hc)
  · cases hf : heap.attached.get? env with
    | none => exact CleanAt.of_stop (pushFrame_of_notAttached hc hf)
    | some f => exact CleanAt.of_ok (pushFrame_of_attached hc hf)

/-- Where a frame is refused to its opener, the host ends. -/
theorem cleanAt_openFrame (env : EnvId) (capacity : Int32) (heap : Heap) :
    ((host env).openFrame capacity).CleanAt heap := by
  by_cases hc : capacity < 0
  · exact CleanAt.of_stop (Action.bind_of_ok (pushFrame_of_neg hc) _)
  · cases hf : heap.attached.get? env with
    | none => exact CleanAt.of_stop (Action.bind_of_error (pushFrame_of_notAttached hc hf) _)
    | some f => exact CleanAt.of_ok (Action.bind_of_ok (pushFrame_of_attached hc hf) _)

/-- A frame is closed or refused. -/
theorem cleanAt_popFrame (env : EnvId) (x : Local) (heap : Heap) :
    (popFrame env x).CleanAt heap := by
  cases hf : heap.attached.get? env with
  | none => exact CleanAt.of_stop (popFrame_of_notAttached hf x)
  | some f =>
    cases hg : f.pop? with
    | none => exact CleanAt.of_stop (popFrame_of_base hf hg x)
    | some g =>
      cases x with
      | none => exact CleanAt.of_ok (popFrame_null hf hg)
      | some id =>
        cases hlive : heap.isLive id with
        | true => exact CleanAt.of_ok (popFrame_of_live hf hg hlive)
        | false => exact CleanAt.of_ok (popFrame_of_freed hf hg hlive)

/-- A reference is made or refused. -/
theorem cleanAt_makeReference (env : EnvId) (strength : Strength) (x : Local) (heap : Heap) :
    (makeReference env strength x).CleanAt heap := by
  cases x with
  | none => exact CleanAt.of_stop makeReference_null
  | some id =>
    cases hlive : heap.isLive id with
    | false => exact CleanAt.of_stop (makeReference_of_freed hlive)
    | true =>
      cases hfull : heap.isFull with
      | true => exact CleanAt.of_ok (makeReference_of_full hlive hfull)
      | false => exact CleanAt.of_ok (makeReference_of_room hlive hfull)

/-- As long as the words last, a handle is made or refused: the word of a new reference is not zero,
and is adopted. -/
theorem cleanAt_makeHandle (hraw : heap.nextRaw ≠ 0) (env : EnvId) (strength : Strength)
    (x : Local) : (makeHandle env strength x).CleanAt heap := by
  cases x with
  | none => exact CleanAt.of_ok makeHandle_null
  | some id =>
    cases hlive : heap.isLive id with
    | false => exact CleanAt.of_stop (makeHandle_of_freed hlive)
    | true =>
      cases hfull : heap.isFull with
      | true => exact CleanAt.of_stop (makeHandle_of_full hlive hfull)
      | false => exact CleanAt.of_ok (makeHandle_of_room hlive hfull hraw)

/-- A referent gets a local or the look-up is refused. -/
theorem cleanAt_newLocal (env : EnvId) (raw : Int64) (heap : Heap) :
    (newLocal env raw).CleanAt heap := by
  cases hrow : heap.references.get? raw with
  | none => exact CleanAt.of_stop (newLocal_of_dead hrow)
  | some row =>
    cases hlive : heap.isLive row.target with
    | false => exact CleanAt.of_ok (newLocal_of_freed hrow hlive)
    | true =>
      cases hf : heap.attached.get? env with
      | none => exact CleanAt.of_stop (newLocal_of_notAttached hrow hlive hf)
      | some f => exact CleanAt.of_ok (newLocal_of_live hrow hlive hf)

/-- A strong handle is resolved or refused. -/
theorem cleanAt_resolve (env : EnvId) (h : Handle) (heap : Heap) :
    ((host env).resolve h).CleanAt heap := by
  cases hs : h.strength with
  | weak => exact CleanAt.of_stop (resolve_of_weak hs)
  | strong =>
    cases hrow : heap.references.get? h.raw with
    | none => exact CleanAt.of_stop (resolve_of_dead hs hrow)
    | some row =>
      cases hlive : heap.isLive row.target with
      | false => exact CleanAt.of_stop (resolve_of_freed hs hrow hlive)
      | true =>
        cases hf : heap.attached.get? env with
        | none => exact CleanAt.of_stop (resolve_of_notAttached hs hrow hlive hf)
        | some f => exact CleanAt.of_ok (resolve_of_live hs hrow hlive hf)

/-- A weak handle is resolved or refused. -/
theorem cleanAt_resolveWeak (env : EnvId) (h : Handle) (heap : Heap) :
    ((host env).resolveWeak h).CleanAt heap := by
  cases hs : h.strength with
  | strong => exact CleanAt.of_stop (resolveWeak_of_strong hs)
  | weak =>
    cases hrow : heap.references.get? h.raw with
    | none => exact CleanAt.of_stop (resolveWeak_of_dead hs hrow)
    | some row =>
      cases hlive : heap.isLive row.target with
      | false => exact CleanAt.of_ok (resolveWeak_of_freed hs hrow hlive)
      | true =>
        cases hf : heap.attached.get? env with
        | none => exact CleanAt.of_stop (resolveWeak_of_notAttached hs hrow hlive hf)
        | some f => exact CleanAt.of_ok (resolveWeak_of_live hs hrow hlive hf)

/-- A word is released as the table has it, or refused. -/
theorem cleanAt_unref (env : EnvId) (raw : Int64) (heap : Heap) :
    ((host env).unref raw).CleanAt heap := by
  by_cases hraw : raw = 0
  · subst hraw
    exact CleanAt.of_ok unref_zero
  · cases hrow : heap.references.get? raw with
    | none => exact CleanAt.of_stop (unref_of_dead hraw hrow)
    | some row => exact CleanAt.of_ok (unref_of_row hraw hrow)

/-- Managed code is answered or refused. -/
theorem cleanAt_managed (hraw : heap.nextRaw ≠ 0) (env : EnvId)
    (call : ManagedCall Local Int64) : ((Operation.managed call).perform env).CleanAt heap := by
  cases call with
  | newRef x =>
    rw [Operation.perform_newRef]
    exact (cleanAt_makeHandle hraw env .strong x).bind_pure _
  | newWeakRef x =>
    rw [Operation.perform_newWeakRef]
    exact (cleanAt_makeHandle hraw env .weak x).bind_pure _
  | unref raw =>
    rw [Operation.perform_unref]
    exact (cleanAt_unref env raw heap).bind_pure _
  | get raw =>
    rw [Operation.perform_get]
    refine CleanAt.bind_pure ?_ _
    by_cases hzero : raw = 0
    · subst hzero
      exact CleanAt.of_ok rfl
    · rw [get_of_ne_zero env hzero]
      exact cleanAt_resolve env _ heap
  | getWeak raw =>
    rw [Operation.perform_getWeak]
    refine CleanAt.bind_pure ?_ _
    by_cases hzero : raw = 0
    · subst hzero
      exact CleanAt.of_ok rfl
    · rw [getWeak_of_ne_zero env hzero]
      exact (cleanAt_resolveWeak env _ heap).bind_pure _

/-! ### Deletions as the other class -/

/-- The word that an operation deletes as one of a class that it is told. -/
def Operation.deletedAs? {L : Type} : Operation L Handle Int64 → Option (Int64 × Strength)
  | .release h => some (h.raw, h.strength)
  | .deleteStrong raw => some (raw, .strong)
  | .deleteWeak raw => some (raw, .weak)
  | _ => none

/-- An operation deletes a reference as one of the other class. -/
def Operation.Mistakes (heap : Heap) (operation : Operation Local Handle Int64) : Prop :=
  ∃ raw row strength, heap.references.get? raw = some row ∧
    operation.deletedAs? = some (raw, strength) ∧ row.strength ≠ strength

/-- Deleting a word as one of a class is deleting the reference or nothing. -/
theorem Operation.perform_of_deletedAs? (hdeleted : operation.deletedAs? = some (raw, strength))
    (hraw : raw ≠ 0) (env : EnvId) (heap : Heap) :
    (operation.perform env heap).result =
        (removeReference raw strength heap).result.map (fun _ => .done) ∧
      (operation.perform env heap).state = (removeReference raw strength heap).state := by
  cases operation with
  | release h =>
    cases hdeleted
    simp only [Operation.perform, Action.bind_pure_apply, release_eq]
    exact ⟨trivial, trivial⟩
  | deleteStrong r | deleteWeak r =>
    cases hdeleted
    simp only [Operation.perform, Action.bind_pure_apply, host, if_neg hraw]
    exact ⟨trivial, trivial⟩
  | _ => cases hdeleted

/-- As long as the words last, an operation that fails has changed nothing, unless it deletes a
reference as one of the other class. An object is made before its local, so an allocation needs its
environment. -/
theorem Operation.cleanAt_perform (hraw : heap.nextRaw ≠ 0)
    (hplace : operation.label? = none ∨ heap.attached.contains env = true)
    (hclass : ¬ operation.Mistakes heap) : (operation.perform env).CleanAt heap := by
  have hdeletion : ∀ raw strength, operation.deletedAs? = some (raw, strength) → raw ≠ 0 →
      (operation.perform env).CleanAt heap := by
    intro raw strength hdeleted hzero e he
    obtain ⟨hresult, hstate⟩ := Operation.perform_of_deletedAs? hdeleted hzero env heap
    rw [hstate]
    cases hrow : heap.references.get? raw with
    | none => rw [removeReference_of_dead hrow]
    | some row =>
      have hs : row.strength = strength := by
        by_contra hs
        exact hclass ⟨raw, row, strength, hrow, hdeleted, hs⟩
      rw [hresult, removeReference_of_row hrow, if_pos hs] at he
      cases he
  cases operation with
  | alloc text =>
    have hattached := hplace.resolve_left nofun
    obtain ⟨f, hf⟩ := Option.isSome_iff_exists.mp hattached
    exact (CleanAt.of_ok (alloc_of_attached hf text)).bind_pure _
  | null | isNull x | same x y => exact CleanAt.of_ok rfl
  | label x => exact CleanAt.of_ok rfl
  | classify raw => exact (CleanAt.of_ok (classify_eq env raw heap)).bind_pure _
  | deleteLocal x => exact (cleanAt_deleteLocal env x heap).bind_pure _
  | createStrong x => exact (cleanAt_makeHandle hraw env .strong x).bind_pure _
  | createWeak x => exact (cleanAt_makeHandle hraw env .weak x).bind_pure _
  | newStrong x => exact (cleanAt_makeReference env .strong x heap).bind_pure _
  | newWeak x => exact (cleanAt_makeReference env .weak x heap).bind_pure _
  | release h => exact hdeletion _ _ rfl h.raw_ne_zero
  | deleteStrong raw | deleteWeak raw =>
    by_cases hzero : raw = 0
    · subst hzero
      exact CleanAt.of_ok rfl
    · exact hdeletion _ _ rfl hzero
  | resolve h => exact (cleanAt_resolve env h heap).bind_pure _
  | resolveWeak h => exact (cleanAt_resolveWeak env h heap).bind_pure _
  | managed call => exact cleanAt_managed hraw env call
  | newLocal raw => exact (cleanAt_newLocal env raw heap).bind_pure _
  | pushFrame capacity => exact (cleanAt_pushFrame env capacity heap).bind_pure _
  | openFrame capacity => exact (cleanAt_openFrame env capacity heap).bind_pure _
  | popFrame x => exact (cleanAt_popFrame env x heap).bind_pure _
  | closeFrame => exact ((cleanAt_popFrame env none heap).bind_pure _).bind_pure _
  | closeFrameWith x => exact (cleanAt_popFrame env x heap).bind_pure _
  | fatal reason => exact CleanAt.of_stop rfl

/-- As long as the words last, a deletion as the other class is reported, and takes away exactly the
reference and its place. -/
theorem perform_of_wrong_class
    (hwords : (made (history (fresh capacity) steps)).length < 2 ^ 64 - 1)
    (hrow : (after (fresh capacity) steps).references.get? raw = some row)
    (hdeleted : operation.deletedAs? = some (raw, strength)) (hs : row.strength ≠ strength) :
    (operation.perform env (after (fresh capacity) steps)).result =
        .error (.misuse (.wrongClass raw row.strength strength)) ∧
      (operation.perform env (after (fresh capacity) steps)).state =
        (after (fresh capacity) steps).withoutReference raw ∧
      ((after (fresh capacity) steps).withoutReference raw).references.size + 1 =
        (after (fresh capacity) steps).references.size ∧
      ((after (fresh capacity) steps).withoutReference raw).slots + 1 =
        (after (fresh capacity) steps).slots := by
  obtain ⟨h, hraw, -⟩ := mem_made_of_get? hwords hrow
  have hzero : raw ≠ 0 := hraw ▸ h.raw_ne_zero
  obtain ⟨hresult, hstate⟩ :=
    Operation.perform_of_deletedAs? hdeleted hzero env (after (fresh capacity) steps)
  have hsize := Table.size_erase_of_get?_eq_some hrow
  have hslots := slots_eq_size hwords
  refine ⟨?_, ?_, hsize, ?_⟩
  · rw [hresult, removeReference_of_row hrow, if_neg hs]
    rfl
  · rw [hstate, removeReference_of_row hrow]
  · rw [withoutReference_slots]
    omega

/-- As long as the words last, an operation that fails leaves the heap exactly as it was, whatever
it is and why ever it fails, with one exception: an operation that deletes a reference as one of the
other class reports that and takes away exactly this reference and its place. -/
theorem failed_operations_leave_heap (capacity : Option Nat) (steps : List Step)
    (hwords : (made (history (fresh capacity) steps)).length < 2 ^ 64 - 1) (env : EnvId)
    (operation : Operation Local Handle Int64)
    (hplace : operation.label? = none ∨
      (after (fresh capacity) steps).attached.contains env = true) :
    (¬ operation.Mistakes (after (fresh capacity) steps) → ∀ fault,
      (operation.perform env (after (fresh capacity) steps)).result = .error fault →
        (operation.perform env (after (fresh capacity) steps)).state =
          after (fresh capacity) steps) ∧
    ∀ raw row strength, (after (fresh capacity) steps).references.get? raw = some row →
      operation.deletedAs? = some (raw, strength) → row.strength ≠ strength →
        (operation.perform env (after (fresh capacity) steps)).result =
            .error (.misuse (.wrongClass raw row.strength strength)) ∧
          (operation.perform env (after (fresh capacity) steps)).state =
            (after (fresh capacity) steps).withoutReference raw ∧
          ((after (fresh capacity) steps).withoutReference raw).references.size + 1 =
            (after (fresh capacity) steps).references.size ∧
          ((after (fresh capacity) steps).withoutReference raw).slots + 1 =
            (after (fresh capacity) steps).slots := by
  constructor
  · intro hclass
    exact Operation.cleanAt_perform (nextRaw_ne_zero hwords) hplace hclass
  · intro raw row strength hrow hdeleted hs
    exact perform_of_wrong_class hwords hrow hdeleted hs

/-- In a full table a weak reference is there. Asking for another one fails and leaves the heap; so
does closing the base frame. Releasing the weak reference as a strong one fails and deletes it. -/
theorem failed_release_deletes_weak_reference :
    (made (history (fresh (some 1))
      [.attach, .operate 1 (.alloc "a"), .operate 1 (.createWeak (some 1))])).length <
        2 ^ 64 - 1 ∧
    ((Operation.createStrong (some 1)).perform 1 (after (fresh (some 1))
      [.attach, .operate 1 (.alloc "a"), .operate 1 (.createWeak (some 1))])).state =
        after (fresh (some 1))
          [.attach, .operate 1 (.alloc "a"), .operate 1 (.createWeak (some 1))] ∧
    ((Operation.closeFrame).perform 1 (after (fresh (some 1))
      [.attach, .operate 1 (.alloc "a"), .operate 1 (.createWeak (some 1))])).state =
        after (fresh (some 1))
          [.attach, .operate 1 (.alloc "a"), .operate 1 (.createWeak (some 1))] ∧
    ((Operation.release ⟨.strong, 1, by decide⟩).perform 1 (after (fresh (some 1))
      [.attach, .operate 1 (.alloc "a"), .operate 1 (.createWeak (some 1))])).state =
        (after (fresh (some 1))
          [.attach, .operate 1 (.alloc "a"), .operate 1 (.createWeak (some 1))]).withoutReference
            1 := by
  refine ⟨by decide, ?_, ?_, ?_⟩
  · refine (failed_operations_leave_heap (some 1) _ (by decide) 1 (.createStrong (some 1))
      (.inl rfl)).1 ?_ (.fatal HostFailure.tableExhausted.message) (by decide)
    rintro ⟨_, _, _, -, hdeleted, -⟩
    cases hdeleted
  · refine (failed_operations_leave_heap (some 1) _ (by decide) 1 .closeFrame
      (.inl rfl)).1 ?_ (.misuse .frameUnderflow) (by decide)
    rintro ⟨_, _, _, -, hdeleted, -⟩
    cases hdeleted
  · exact ((failed_operations_leave_heap (some 1) _ (by decide) 1
      (.release ⟨.strong, 1, by decide⟩) (.inl rfl)).2 1 ⟨.weak, 1⟩ .strong (by decide) rfl
        nofun).2.1

end DurableRefs.Heap
