import DurableRefs.Proofs.Heap.Rooted
import DurableRefs.Proofs.Heap.Words

/-!
# Lifetimes of handles and of their referents

A handle that has not been released keeps its row, whatever else happens. The referent of a
strong handle is kept live by that row. The referent of a weak handle is live until a collection
finds it without a root, and gone from then on.
-/

namespace DurableRefs.Heap

variable {heap : Heap} {id : ObjectId} {h : Handle} {step request : Step}
  {capacity : Option Nat} {steps before later more : List Step}

/-! ### Collections of an object -/

/-- Some collection in a run found an object without a root. -/
def SweptIn (start : Heap) (steps : List Step) (id : ObjectId) : Prop :=
  ∃ m ∈ history start steps, m.step = .collect ∧ ¬ m.heap.IsRooted id

instance (start : Heap) (steps : List Step) (id : ObjectId) : Decidable (SweptIn start steps id) :=
  inferInstanceAs (Decidable (∃ m ∈ history start steps, m.step = .collect ∧ ¬ m.heap.IsRooted id))

/-- No collection was made in a run without steps. -/
@[simp] theorem not_sweptIn_nil (start : Heap) (id : ObjectId) : ¬ SweptIn start [] id := by
  simp [SweptIn]

/-- One step more sweeps an object if it is a collection that finds it without a root. -/
theorem sweptIn_concat {start : Heap} : SweptIn start (steps ++ [step]) id ↔
    SweptIn start steps id ∨ step = .collect ∧ ¬ (after start steps).IsRooted id := by
  simp [SweptIn, or_and_right, exists_or]

/-- What was swept in a run was swept in the run as it went on. -/
theorem SweptIn.append {start : Heap} (hswept : SweptIn start steps id) (more : List Step) :
    SweptIn start (steps ++ more) id := by
  obtain ⟨m, hm, hcollect⟩ := hswept
  refine ⟨m, ?_, hcollect⟩
  rw [history_append]
  exact List.mem_append_left _ hm

/-- As long as the numbers last, an object that is live at some time stays live until a
collection finds it without a root, and then never comes back. -/
theorem isLive_after_iff (hlive : (after (fresh capacity) before).isLive id = true)
    (hnumbers : (allocated (history (fresh capacity) (before ++ later))).length ≤ 2 ^ 32) :
    (after (fresh capacity) (before ++ later)).isLive id = true ↔
      ¬ SweptIn (after (fresh capacity) before) later id := by
  induction later using List.reverseRecOn with
  | nil => simpa using hlive
  | append_singleton later step ih =>
    rw [← List.append_assoc] at hnumbers ⊢
    have hbefore := length_allocated_le_append (fresh capacity) (before ++ later) [step]
    have ih := ih (by omega)
    rw [after_concat, sweptIn_concat, ← after_append]
    rcases (step.change (after (fresh capacity) (before ++ later))).objects_cases with
      ⟨label, hmade, hlater, _⟩ | ⟨_, _, ⟨hcollect, hlater⟩ | ⟨hcollect, hlater⟩⟩
    · have hne : id ≠ (after (fresh capacity) (before ++ later)).nextObject := by
        obtain ⟨text, htext⟩ := isLive_iff.mp hlive
        have hmem := mem_allocated_append (mem_allocated_of_get? htext) later
        rw [allocated_concat, hmade, Option.toList_some, List.length_append,
          List.length_singleton] at hnumbers
        exact ne_nextObject_of_mem_allocated (by omega) hmem
      have hstep : step ≠ .collect := by
        rintro rfl
        cases hmade
      simp only [hstep, false_and, or_false]
      rw [← ih, isLive_iff, isLive_iff, hlater, Table.get?_insert_of_ne hne]
    · rw [hlater, isLive_swept_iff, ih]
      simp only [hcollect, true_and, not_or, not_not]
    · simp only [hcollect, false_and, or_false]
      rw [← ih, isLive_iff, isLive_iff, hlater]

/-! ### Handles -/

/-- A handle was given out for an object by one step of a run and has not been released in the
rest of it, and neither numbers nor words have run out. -/
structure Held (capacity : Option Nat) (before : List Step) (request : Step) (later : List Step)
    (h : Handle) (id : ObjectId) : Prop where
  /-- At most as many objects have been made as there are numbers. -/
  numbers : (allocated (history (fresh capacity) (before ++ request :: later))).length ≤ 2 ^ 32
  /-- Fewer references have been made than there are words. -/
  words : (made (history (fresh capacity) (before ++ request :: later))).length < 2 ^ 64 - 1
  /-- The handle was given out for the object. -/
  given : (⟨after (fresh capacity) before, request⟩ : Moment).made? = some (h, id)
  /-- No step was told to delete the reference of the handle. -/
  kept : ∀ step ∈ later, step.deleted? ≠ some h.raw

namespace Held

/-- The referent is live when the handle has just been given out. -/
theorem isLive_request (hheld : Held capacity before request later h id) :
    (after (fresh capacity) (before ++ [request])).isLive id = true := by
  obtain ⟨hlive, -, hlater⟩ := row_of_made? hheld.given
  rw [after_concat, hlater, isLive_withReference]
  exact hlive

/-- A handle that has not been released keeps its row. -/
theorem row (hheld : Held capacity before request later h id) :
    (after (fresh capacity) (before ++ request :: later)).references.get? h.raw =
      some ⟨h.strength, id⟩ :=
  get?_of_made? hheld.words hheld.given hheld.kept

/-- The referent is live as long as no collection has found it without a root. -/
theorem isLive_iff (hheld : Held capacity before request later h id) :
    (after (fresh capacity) (before ++ request :: later)).isLive id = true ↔
      ¬ SweptIn (after (fresh capacity) (before ++ [request])) later id := by
  have hnumbers := hheld.numbers
  rw [List.append_cons] at hnumbers ⊢
  exact isLive_after_iff hheld.isLive_request hnumbers

/-- The referent has the label that it was made with, and no other was ever made under its
number before the handle was given out. -/
theorem label_eq {label : String} (hheld : Held capacity before request later h id)
    (hlabel : (after (fresh capacity) (before ++ request :: later)).objects.get? id = some label)
    (text : String) : (id, text) ∈ allocated (history (fresh capacity) before) ↔ text = label := by
  have hend := mem_allocated_of_get? hlabel
  refine ⟨fun htext => label_unique hheld.numbers (mem_allocated_append htext _) hend, ?_⟩
  rintro rfl
  obtain ⟨first, hfirst⟩ := Heap.isLive_iff.mp (row_of_made? hheld.given).1
  have hmade := mem_allocated_of_get? hfirst
  rwa [← label_unique hheld.numbers (mem_allocated_append hmade _) hend]

end Held

/-! ### Strong handles -/

/-- A strong handle and its word find a live referent and make one local for it. -/
theorem perform_resolve_of_live {env : EnvId} {f : Frames} (hs : h.strength = .strong)
    (hrow : heap.references.get? h.raw = some ⟨h.strength, id⟩) (hlive : heap.isLive id = true)
    (hf : heap.attached.get? env = some f) :
    (Operation.resolve h).perform env heap =
        ⟨.ok (.object (some id)), heap.withFrames env (f.add id), []⟩ ∧
      (Operation.managed (.get h.raw)).perform env heap =
        ⟨.ok (.object (some id)), heap.withFrames env (f.add id), []⟩ := by
  have hword := @resolve_of_live heap env f _ ⟨.strong, h.raw, h.raw_ne_zero⟩ rfl hrow hlive hf
  constructor
  · simp only [Operation.perform, Action.bind_pure_apply, resolve_of_live hs hrow hlive hf]
    rfl
  · simp only [Operation.perform, Host.answer, Action.bind_pure_apply,
      get_of_ne_zero env h.raw_ne_zero, hword]
    rfl

/-- A strong handle that has not been released resolves to its object in every environment that
is attached, whatever has happened since it was given out. One local goes to the innermost frame
of the environment, nothing else changes, and the object has the label it was made with. -/
theorem strong_handle_resolves (hheld : Held capacity before request later h id)
    (hs : h.strength = .strong) :
    (∀ env f,
      (after (fresh capacity) (before ++ request :: later)).attached.get? env = some f →
        (Operation.resolve h).perform env
            (after (fresh capacity) (before ++ request :: later)) =
          ⟨.ok (.object (some id)),
            (after (fresh capacity) (before ++ request :: later)).withFrames env (f.add id),
            []⟩ ∧
        (Operation.managed (.get h.raw)).perform env
            (after (fresh capacity) (before ++ request :: later)) =
          ⟨.ok (.object (some id)),
            (after (fresh capacity) (before ++ request :: later)).withFrames env (f.add id),
            []⟩) ∧
    ∃ label,
      (after (fresh capacity) (before ++ request :: later)).objects.get? id = some label ∧
      ∀ text, (id, text) ∈ allocated (history (fresh capacity) before) ↔ text = label := by
  have hrow := hheld.row
  have hlive : (after (fresh capacity) (before ++ request :: later)).isLive id = true :=
    rootsLive_after capacity _ id (.inr ⟨h.raw, _, hrow, hs, rfl⟩)
  refine ⟨fun env f hf => perform_resolve_of_live hs hrow hlive hf, ?_⟩
  obtain ⟨label, hlabel⟩ := isLive_iff.mp hlive
  exact ⟨label, hlabel, hheld.label_eq hlabel⟩

/-- A strong handle made in one environment resolves in another one, after the first has been
detached and the heap has been collected. -/
theorem strong_handle_resolves_elsewhere :
    Held none [.attach, .operate 1 (.alloc "a")] (.operate 1 (.createStrong (some 1)))
      [.detach 1, .attach, .collect] ⟨.strong, 1, by decide⟩ 1 ∧
    ((Operation.resolve ⟨.strong, 1, by decide⟩).perform 2 (after (fresh none)
      [.attach, .operate 1 (.alloc "a"), .operate 1 (.createStrong (some 1)), .detach 1, .attach,
        .collect])).result = .ok (.object (some 1)) := by
  have hheld : Held none [.attach, .operate 1 (.alloc "a")]
      (.operate 1 (.createStrong (some 1))) [.detach 1, .attach, .collect]
      ⟨.strong, 1, by decide⟩ 1 := ⟨by decide, by decide, by decide, by decide⟩
  refine ⟨hheld, ?_⟩
  have hresolve := ((strong_handle_resolves hheld rfl).1 2 Frames.base (by decide)).1
  exact congrArg Run.result hresolve

/-! ### Weak handles -/

/-- A weak handle and its word find a live referent and make one local for it. -/
theorem perform_resolveWeak_of_live {env : EnvId} {f : Frames} (hs : h.strength = .weak)
    (hrow : heap.references.get? h.raw = some ⟨h.strength, id⟩) (hlive : heap.isLive id = true)
    (hf : heap.attached.get? env = some f) :
    (Operation.resolveWeak h).perform env heap =
        ⟨.ok (.referent (some (some id))), heap.withFrames env (f.add id), []⟩ ∧
      (Operation.managed (.getWeak h.raw)).perform env heap =
        ⟨.ok (.object (some id)), heap.withFrames env (f.add id), []⟩ := by
  have hword :=
    @resolveWeak_of_live heap env f _ ⟨.weak, h.raw, h.raw_ne_zero⟩ rfl hrow hlive hf
  constructor
  · simp only [Operation.perform, Action.bind_pure_apply, resolveWeak_of_live hs hrow hlive hf]
    rfl
  · simp only [Operation.perform, Host.answer, Action.bind_pure_apply,
      getWeak_of_ne_zero env h.raw_ne_zero, hword]
    rfl

/-- A weak handle and its word find nothing when the referent has been freed. -/
theorem perform_resolveWeak_of_freed (env : EnvId) (hs : h.strength = .weak)
    (hrow : heap.references.get? h.raw = some ⟨h.strength, id⟩)
    (hlive : heap.isLive id = false) :
    (Operation.resolveWeak h).perform env heap =
        ⟨.ok (.referent none), heap, [.referentGone h.raw]⟩ ∧
      (Operation.managed (.getWeak h.raw)).perform env heap =
        ⟨.ok (.object none), heap, [.referentGone h.raw]⟩ := by
  have hword := @resolveWeak_of_freed heap env _ ⟨.weak, h.raw, h.raw_ne_zero⟩ rfl hrow hlive
  constructor
  · simp only [Operation.perform, Action.bind_pure_apply, resolveWeak_of_freed hs hrow hlive]
    rfl
  · simp only [Operation.perform, Host.answer, Action.bind_pure_apply,
      getWeak_of_ne_zero env h.raw_ne_zero, hword]
    rfl

/-- Releasing a handle that has its row, through the handle or its word, deletes the row. -/
theorem perform_release_of_row (env : EnvId)
    (hrow : heap.references.get? h.raw = some ⟨h.strength, id⟩) :
    (Operation.release h).perform env heap =
        ⟨.ok .done, heap.withoutReference h.raw, [.releasing h.raw h.strength]⟩ ∧
      (Operation.managed (.unref h.raw)).perform env heap =
        ⟨.ok .done, heap.withoutReference h.raw, [.releasing h.raw h.strength]⟩ := by
  constructor
  · simp only [Operation.perform, Action.bind_pure_apply, release_eq,
      removeReference_of_row hrow, if_true]
    rfl
  · simp only [Operation.perform, Host.answer, Action.bind_pure_apply,
      unref_of_row h.raw_ne_zero hrow]
    rfl

/-- Asking for a weak handle's referent finds nothing exactly when the referent has been freed,
in an environment that is attached or not. -/
theorem resolveWeak_gone_iff (env : EnvId) (hs : h.strength = .weak)
    (hrow : heap.references.get? h.raw = some ⟨h.strength, id⟩) :
    (((Operation.resolveWeak h).perform env heap).result = .ok (.referent none) ↔
        heap.isLive id = false) ∧
      (((Operation.managed (.getWeak h.raw)).perform env heap).result = .ok (.object none) ↔
        heap.isLive id = false) := by
  cases hlive : heap.isLive id with
  | false =>
    obtain ⟨hresolve, hget⟩ := perform_resolveWeak_of_freed env hs hrow hlive
    simp [hresolve, hget]
  | true =>
    cases hf : heap.attached.get? env with
    | some f =>
      obtain ⟨hresolve, hget⟩ := perform_resolveWeak_of_live hs hrow hlive hf
      simp [hresolve, hget]
    | none =>
      have hword :=
        @resolveWeak_of_notAttached heap env _ ⟨.weak, h.raw, h.raw_ne_zero⟩ rfl hrow hlive hf
      simp only [Operation.perform, Host.answer, Action.bind_pure_apply,
        getWeak_of_ne_zero env h.raw_ne_zero, hword,
        resolveWeak_of_notAttached hs hrow hlive hf, Except.map]
      simp

/-- A weak handle that has not been released is gone exactly when a collection since it was given
out found its object without a root. Until then it resolves to its object and makes a local that
roots the object again. Once it is gone it stays gone, and it is released like any other. -/
theorem weak_handle_gone_iff_swept (hheld : Held capacity before request later h id)
    (hs : h.strength = .weak) :
    (∀ env,
      (((Operation.resolveWeak h).perform env
          (after (fresh capacity) (before ++ request :: later))).result = .ok (.referent none) ↔
        SweptIn (after (fresh capacity) (before ++ [request])) later id) ∧
      (((Operation.managed (.getWeak h.raw)).perform env
          (after (fresh capacity) (before ++ request :: later))).result = .ok (.object none) ↔
        SweptIn (after (fresh capacity) (before ++ [request])) later id)) ∧
    (¬ SweptIn (after (fresh capacity) (before ++ [request])) later id → ∀ env f,
      (after (fresh capacity) (before ++ request :: later)).attached.get? env = some f →
        (Operation.resolveWeak h).perform env
            (after (fresh capacity) (before ++ request :: later)) =
          ⟨.ok (.referent (some (some id))),
            (after (fresh capacity) (before ++ request :: later)).withFrames env (f.add id),
            []⟩ ∧
        (Operation.managed (.getWeak h.raw)).perform env
            (after (fresh capacity) (before ++ request :: later)) =
          ⟨.ok (.object (some id)),
            (after (fresh capacity) (before ++ request :: later)).withFrames env (f.add id),
            []⟩ ∧
        ((after (fresh capacity) (before ++ request :: later)).withFrames env
          (f.add id)).IsRooted id) ∧
    (SweptIn (after (fresh capacity) (before ++ [request])) later id →
      ∀ more, Held capacity before request (later ++ more) h id → ∀ env,
        (Operation.resolveWeak h).perform env
            (after (fresh capacity) (before ++ request :: (later ++ more))) =
          ⟨.ok (.referent none), after (fresh capacity) (before ++ request :: (later ++ more)),
            [.referentGone h.raw]⟩ ∧
        (Operation.managed (.getWeak h.raw)).perform env
            (after (fresh capacity) (before ++ request :: (later ++ more))) =
          ⟨.ok (.object none), after (fresh capacity) (before ++ request :: (later ++ more)),
            [.referentGone h.raw]⟩) ∧
    ∀ env,
      (Operation.release h).perform env (after (fresh capacity) (before ++ request :: later)) =
        ⟨.ok .done,
          (after (fresh capacity) (before ++ request :: later)).withoutReference h.raw,
          [.releasing h.raw .weak]⟩ ∧
      (Operation.managed (.unref h.raw)).perform env
          (after (fresh capacity) (before ++ request :: later)) =
        ⟨.ok .done,
          (after (fresh capacity) (before ++ request :: later)).withoutReference h.raw,
          [.releasing h.raw .weak]⟩ := by
  have hrow := hheld.row
  have hfreed : ∀ {steps}, Held capacity before request steps h id →
      ((after (fresh capacity) (before ++ request :: steps)).isLive id = false ↔
        SweptIn (after (fresh capacity) (before ++ [request])) steps id) := by
    intro steps hsteps
    rw [← Bool.not_eq_true, hsteps.isLive_iff, not_not]
  refine ⟨fun env => ?_, fun hswept env f hf => ?_, fun hswept more hmore env => ?_,
    fun env => ?_⟩
  · rw [← hfreed hheld]
    exact resolveWeak_gone_iff env hs hrow
  · have hlive := hheld.isLive_iff.mpr hswept
    obtain ⟨hresolve, hget⟩ := perform_resolveWeak_of_live hs hrow hlive hf
    refine ⟨hresolve, hget, .inl ⟨env, f.add id, ?_, by simp⟩⟩
    rw [withFrames_attached, Table.get?_insert_self]
  · have hgone := (hfreed hmore).mpr (hswept.append more)
    exact perform_resolveWeak_of_freed env hs hmore.row hgone
  · rw [← hs]
    exact perform_release_of_row env hrow

/-- A weak handle keeps its object through a collection as long as a local is there, and is gone
after a collection that follows the deletion of the local. -/
theorem weak_handle_gone_after_collection :
    Held none [.attach, .operate 1 (.alloc "a")] (.operate 1 (.createWeak (some 1)))
      [.collect] ⟨.weak, 1, by decide⟩ 1 ∧
    ((Operation.resolveWeak ⟨.weak, 1, by decide⟩).perform 1 (after (fresh none)
      [.attach, .operate 1 (.alloc "a"), .operate 1 (.createWeak (some 1)),
        .collect])).result ≠ .ok (.referent none) ∧
    ((Operation.resolveWeak ⟨.weak, 1, by decide⟩).perform 1 (after (fresh none)
      [.attach, .operate 1 (.alloc "a"), .operate 1 (.createWeak (some 1)),
        .collect, .operate 1 (.deleteLocal (some 1)), .collect])).result =
          .ok (.referent none) := by
  have hheld : Held none [.attach, .operate 1 (.alloc "a")]
      (.operate 1 (.createWeak (some 1))) [.collect] ⟨.weak, 1, by decide⟩ 1 :=
    ⟨by decide, by decide, by decide, by decide⟩
  have hlater : Held none [.attach, .operate 1 (.alloc "a")]
      (.operate 1 (.createWeak (some 1)))
      [.collect, .operate 1 (.deleteLocal (some 1)), .collect] ⟨.weak, 1, by decide⟩ 1 :=
    ⟨by decide, by decide, by decide, by decide⟩
  refine ⟨hheld, ?_, ?_⟩
  · exact mt ((weak_handle_gone_iff_swept hheld rfl).1 1).1.mp (by decide)
  · exact ((weak_handle_gone_iff_swept hlater rfl).1 1).1.mpr (by decide)

end DurableRefs.Heap
