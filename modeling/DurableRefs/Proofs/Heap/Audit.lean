import DurableRefs.Proofs.Action
import DurableRefs.Proofs.Heap.Words

/-!
# The log accounts for the table of references

Every handle that is made or given up is reported. Whoever reads these reports in order knows the
class of every reference that a heap has, as long as references are made and deleted through
handles and their words only: failures leave the log and the table in step.
-/

namespace DurableRefs

namespace Log

/-! ### Reading the log -/

/-- What a record says about the classes of the references. The record of a new reference gives
its word a class, that of a release takes the word away, and the others say nothing. -/
def Record.audit (t : Table Int64 Strength) (r : Record) : Table Int64 Strength :=
  if r.level = .trace ∧ r.target = referenceTarget then
    match r.message, r.fields with
    | "created reference", [("raw", .number n), ("kind", .shown kind)] =>
      match Strength.ofName? kind with
      | some s => t.insert (.ofInt n) s
      | none => t
    | "releasing reference", [("raw", .number n), ("kind", .shown _)] => t.erase (.ofInt n)
    | _, _ => t
  else t

/-- The classes of the references after more records, read from the oldest on. -/
def auditFrom (t : Table Int64 Strength) (records : List Record) : Table Int64 Strength :=
  records.foldl Record.audit t

/-- The classes of the references as the records of a log tell them. -/
def audit (records : List Record) : Table Int64 Strength := auditFrom {} records

variable {e : Event} {events : List Event}

/-- The event of a new reference is read as what it says. -/
@[simp] theorem audit_created (t : Table Int64 Strength) (raw : Int64) (s : Strength) :
    (Event.created raw s).record.audit t = t.insert raw s := by
  simp [Record.audit, Event.record, Strength.ofName?_name]

/-- The event of a release is read as what it says, whatever class it names. -/
@[simp] theorem audit_releasing (t : Table Int64 Strength) (raw : Int64) (s : Strength) :
    (Event.releasing raw s).record.audit t = t.erase raw := by
  simp [Record.audit, Event.record]

/-- Whether an event is about something else than a new reference or a release. -/
def Event.isSilent : Event → Bool
  | created .. | releasing .. => false
  | _ => true

/-- A silent event says nothing about the classes of references. -/
theorem audit_of_isSilent (hsilent : e.isSilent = true) (t : Table Int64 Strength) :
    e.record.audit t = t := by
  cases e <;> simp_all [Event.isSilent, Record.audit, Event.record, referenceTarget]

/-- Silent events leave what is known as it is. -/
theorem auditFrom_of_isSilent (hsilent : ∀ e ∈ events, e.isSilent = true)
    (t : Table Int64 Strength) : auditFrom t (events.map Event.record) = t := by
  induction events with
  | nil => rfl
  | cons e rest ih =>
    rw [List.map_cons, auditFrom, List.foldl_cons, audit_of_isSilent (hsilent e (by simp))]
    exact ih fun e he => hsilent e (List.mem_cons_of_mem _ he)

/-- More records are read after the ones before them. -/
theorem auditFrom_append (t : Table Int64 Strength) (first rest : List Record) :
    auditFrom t (first ++ rest) = auditFrom (auditFrom t first) rest :=
  List.foldl_append

end Log

namespace Heap

open DurableRefs.Action (NotesOnly)
open Log (auditFrom)

variable {heap : Heap} {env : EnvId} {raw : Int64} {strength : Strength} {x : Local}
  {step : Step} {operation : Operation Local Handle Int64} {capacity : Option Nat}
  {steps : List Step} {Q : Log.Event → Prop}

/-- The classes of the references. -/
def classes (heap : Heap) : Table Int64 Strength := heap.references.mapValues Row.strength

/-- The references of a class are counted by their classes alone. -/
theorem countReferences_eq_count (heap : Heap) (strength : Strength) :
    heap.countReferences strength = heap.classes.count fun _ s => s = strength := by
  rw [classes, Table.count_mapValues]
  rfl

/-- A new reference adds its class under the next word. -/
theorem classes_withReference (heap : Heap) (row : Row) :
    (heap.withReference row).classes = heap.classes.insert heap.nextRaw row.strength :=
  Table.mapValues_insert _ _ _ _

/-- A deleted reference takes its class along. -/
theorem classes_withoutReference (heap : Heap) (raw : Int64) :
    (heap.withoutReference raw).classes = heap.classes.erase raw :=
  Table.mapValues_erase _ _ _

/-- A word that is no reference has no class to erase. -/
theorem erase_classes_of_dead (hrow : heap.references.get? raw = none) :
    heap.classes.erase raw = heap.classes :=
  Table.erase_of_get?_eq_none (by rw [classes, Table.get?_mapValues, hrow]; rfl)

/-! ### Operations that report nothing of interest -/

/-- Looking at the frames of an environment reports nothing. -/
theorem notesOnly_frames (env : EnvId) : (frames env).NotesOnly Q := by
  refine NotesOnly.state.bind fun heap => ?_
  split
  · exact NotesOnly.pure _
  · exact NotesOnly.stop _

/-- Adding a local reports nothing. -/
theorem notesOnly_addLocal (env : EnvId) (id : ObjectId) : (addLocal env id).NotesOnly Q :=
  (notesOnly_frames env).bind fun _ => NotesOnly.change _

/-- Making an object reports nothing. -/
theorem notesOnly_alloc (env : EnvId) (label : String) : (alloc env label).NotesOnly Q := by
  refine NotesOnly.state.bind fun heap => (NotesOnly.put _).bind fun _ => ?_
  exact (notesOnly_addLocal env _).bind fun _ => NotesOnly.pure _

/-- Deleting a local reports nothing. -/
theorem notesOnly_deleteLocal (env : EnvId) (x : Local) : (deleteLocal env x).NotesOnly Q := by
  cases x with
  | none => exact NotesOnly.pure _
  | some id =>
    refine (notesOnly_frames env).bind fun f => ?_
    split
    · exact NotesOnly.change _
    · exact NotesOnly.stop _

/-- Looking a reference up reports nothing. -/
theorem notesOnly_newLocal (env : EnvId) (raw : Int64) : (newLocal env raw).NotesOnly Q := by
  refine NotesOnly.state.bind fun heap => ?_
  split
  · exact NotesOnly.stop _
  · split
    · exact (notesOnly_addLocal env _).bind fun _ => NotesOnly.pure _
    · exact NotesOnly.pure _

/-- Opening a frame reports nothing. -/
theorem notesOnly_pushFrame (env : EnvId) (capacity : Int32) :
    (pushFrame env capacity).NotesOnly Q := by
  unfold pushFrame
  split
  · exact NotesOnly.pure _
  · exact (notesOnly_frames env).bind fun _ => (NotesOnly.change _).bind fun _ => NotesOnly.pure _

/-- Closing a frame reports nothing. -/
theorem notesOnly_popFrame (env : EnvId) (x : Local) : (popFrame env x).NotesOnly Q := by
  refine (notesOnly_frames env).bind fun f => ?_
  split
  · exact NotesOnly.stop _
  · refine NotesOnly.state.bind fun heap => ?_
    split
    · exact (NotesOnly.change _).bind fun _ => NotesOnly.pure _
    · split <;> exact (NotesOnly.change _).bind fun _ => NotesOnly.pure _

/-- A silent event can be reported. -/
theorem notesOnly_emit {e : Log.Event} (env : EnvId) (hsilent : e.isSilent = true) :
    ((host env).emit e).NotesOnly (·.isSilent = true) :=
  NotesOnly.note hsilent

/-- Ending the host is reported by a silent event. -/
theorem notesOnly_fatal {α : Type} (env : EnvId) (reason : String) :
    ((host env).fatal reason : Task α).NotesOnly (·.isSilent = true) :=
  (notesOnly_emit env rfl).bind fun _ => NotesOnly.stop _

/-- Resolving a strong handle reports silent events only. -/
theorem notesOnly_resolve (env : EnvId) (h : Handle) :
    ((host env).resolve h).NotesOnly (·.isSilent = true) := by
  unfold Host.resolve
  split
  · exact NotesOnly.stop _
  · refine (notesOnly_newLocal env h.raw).bind fun x => ?_
    split
    · refine (notesOnly_emit env rfl).bind fun _ => ?_
      exact notesOnly_fatal env _
    · exact NotesOnly.pure _

/-- Resolving a weak handle reports silent events only. -/
theorem notesOnly_resolveWeak (env : EnvId) (h : Handle) :
    ((host env).resolveWeak h).NotesOnly (·.isSilent = true) := by
  unfold Host.resolveWeak
  split
  · exact NotesOnly.stop _
  · refine (notesOnly_newLocal env h.raw).bind fun x => ?_
    split
    · refine (notesOnly_emit env rfl).bind fun _ => ?_
      exact NotesOnly.pure _
    · exact NotesOnly.pure _

/-- Opening a frame for a guard reports silent events only. -/
theorem notesOnly_openFrame (env : EnvId) (capacity : Int32) :
    ((host env).openFrame capacity).NotesOnly (·.isSilent = true) := by
  refine (notesOnly_pushFrame env capacity).bind fun opened => ?_
  split
  · exact NotesOnly.pure _
  · refine (notesOnly_emit env rfl).bind fun _ => ?_
    exact notesOnly_fatal env _

/-- An operation that neither makes nor deletes a reference reports silent events only. -/
theorem Operation.notesOnly_perform (env : EnvId) (hasked : operation.asked? = none)
    (hdeleted : operation.deleted? = none) :
    (operation.perform env).NotesOnly (·.isSilent = true) := by
  cases operation with
  | createStrong y | createWeak y | newStrong y | newWeak y => cases hasked
  | release h | deleteStrong r | deleteWeak r => cases hdeleted
  | alloc text => exact (notesOnly_alloc env text).bind fun _ => NotesOnly.pure _
  | null | isNull y | same y z => exact NotesOnly.pure _
  | deleteLocal y => exact (notesOnly_deleteLocal env y).bind fun _ => NotesOnly.pure _
  | label y =>
    refine NotesOnly.bind ?_ fun _ => NotesOnly.pure _
    exact NotesOnly.state.bind fun _ => NotesOnly.pure _
  | classify r =>
    refine NotesOnly.bind ?_ fun _ => NotesOnly.pure _
    exact NotesOnly.state.bind fun _ => NotesOnly.pure _
  | resolve h => exact (notesOnly_resolve env h).bind fun _ => NotesOnly.pure _
  | resolveWeak h => exact (notesOnly_resolveWeak env h).bind fun _ => NotesOnly.pure _
  | newLocal r => exact (notesOnly_newLocal env r).bind fun _ => NotesOnly.pure _
  | pushFrame capacity => exact (notesOnly_pushFrame env capacity).bind fun _ => NotesOnly.pure _
  | popFrame y | closeFrameWith y => exact (notesOnly_popFrame env y).bind fun _ => NotesOnly.pure _
  | openFrame capacity => exact (notesOnly_openFrame env capacity).bind fun _ => NotesOnly.pure _
  | closeFrame =>
    refine NotesOnly.bind ?_ fun _ => NotesOnly.pure _
    exact (notesOnly_popFrame env none).bind fun _ => NotesOnly.pure _
  | fatal reason => exact notesOnly_fatal env reason
  | managed call =>
    refine NotesOnly.bind ?_ fun _ => NotesOnly.pure _
    cases call with
    | newRef y | newWeakRef y => cases hasked
    | unref r => cases hdeleted
    | get r =>
      refine NotesOnly.bind ?_ fun _ => NotesOnly.pure _
      unfold Host.get
      split
      · exact notesOnly_resolve env _
      · exact NotesOnly.pure _
    | getWeak r =>
      refine NotesOnly.bind ?_ fun _ => NotesOnly.pure _
      unfold Host.getWeak
      split
      · exact (notesOnly_resolveWeak env _).bind fun _ => NotesOnly.pure _
      · exact NotesOnly.pure _

/-! ### What is reported about references -/

/-- Making a handle is reported exactly when the table has a new row for it. -/
theorem auditFrom_makeHandle (hraw : heap.nextRaw ≠ 0) (env : EnvId) (strength : Strength)
    (x : Local) :
    auditFrom heap.classes ((makeHandle env strength x heap).notes.map Log.Event.record) =
      (makeHandle env strength x heap).state.classes := by
  cases x with
  | none =>
    rw [makeHandle_null]
    rfl
  | some id =>
    cases hlive : heap.isLive id with
    | false =>
      rw [makeHandle_of_freed hlive]
      rfl
    | true =>
      cases hfull : heap.isFull with
      | true =>
        rw [makeHandle_of_full hlive hfull]
        exact Log.auditFrom_of_isSilent (by simp [Log.Event.isSilent]) _
      | false =>
        rw [makeHandle_of_room hlive hfull hraw, classes_withReference]
        exact Log.audit_created heap.classes heap.nextRaw strength

/-- Releasing a handle is reported before the table is asked. If the table has no row for it, the
report takes nothing away either. -/
theorem auditFrom_release (env : EnvId) (h : Handle) (heap : Heap) :
    auditFrom heap.classes (((host env).release h heap).notes.map Log.Event.record) =
      ((host env).release h heap).state.classes := by
  rw [release_eq]
  refine (Log.audit_releasing heap.classes h.raw h.strength).trans ?_
  cases hrow : heap.references.get? h.raw with
  | none => rw [removeReference_of_dead hrow, erase_classes_of_dead hrow]
  | some row => rw [removeReference_of_row hrow, classes_withoutReference]

/-- Giving a word up is reported like the release of its handle, whether or not the host knows the
class of the word. -/
theorem auditFrom_unref (env : EnvId) (raw : Int64) (heap : Heap) :
    auditFrom heap.classes (((host env).unref raw heap).notes.map Log.Event.record) =
      ((host env).unref raw heap).state.classes := by
  by_cases hraw : raw = 0
  · rw [hraw, unref_zero]
    rfl
  · cases hrow : heap.references.get? raw with
    | none =>
      rw [unref_of_dead hraw hrow]
      exact (Log.audit_releasing heap.classes raw .strong).trans (erase_classes_of_dead hrow)
    | some row =>
      rw [unref_of_row hraw hrow, classes_withoutReference]
      exact Log.audit_releasing heap.classes raw row.strength

/-- An operation that neither makes nor deletes a reference leaves the references. -/
theorem Operation.references_perform (env : EnvId) (hasked : operation.asked? = none)
    (hdeleted : operation.deleted? = none) :
    (operation.perform env heap).state.references = heap.references := by
  have hchange := Step.change heap (.operate env operation)
  rw [Step.perform_operate] at hchange
  generalize (operation.perform env heap).state = later at hchange ⊢
  generalize (⟨heap, .operate env operation⟩ : Moment).made? = given at hchange
  cases hchange with
  | insert hmade _ _ => simp [hasked] at hmade
  | erase hmade _ => simp [hdeleted] at hmade
  | _ => rfl

/-- What an operation reports is what it does to the classes of references, unless it makes or
deletes a reference behind the back of the log. -/
theorem Operation.auditFrom_perform (hraw : heap.nextRaw ≠ 0) (hbare : operation.isBare = false)
    (env : EnvId) :
    auditFrom heap.classes ((operation.perform env heap).notes.map Log.Event.record) =
      (operation.perform env heap).state.classes := by
  cases hasked : operation.asked? with
  | some p =>
    obtain ⟨form, hform⟩ := Operation.perform_of_not_isBare hbare hasked env
    rw [hform, Action.bind_pure_apply]
    exact auditFrom_makeHandle hraw env p.1 p.2
  | none =>
    cases hdeleted : operation.deleted? with
    | none =>
      have hsilent := Operation.notesOnly_perform env hasked hdeleted heap
      rw [Log.auditFrom_of_isSilent hsilent, classes, classes,
        Operation.references_perform env hasked hdeleted]
    | some raw =>
      cases operation with
      | deleteStrong r | deleteWeak r => cases hbare
      | release h =>
        simp only [Operation.perform, Action.bind_pure_apply]
        exact auditFrom_release env h heap
      | managed call =>
        cases call with
        | unref r =>
          simp only [Operation.perform, Host.answer, Action.bind_pure_apply]
          exact auditFrom_unref env r heap
        | _ => cases hdeleted
      | _ => cases hdeleted

/-- What a step reports is what it does to the classes of references, unless it makes or deletes a
reference behind the back of the log. -/
theorem Step.auditFrom_perform (hraw : heap.nextRaw ≠ 0) (hbare : step.isBare = false) :
    auditFrom heap.classes ((step.perform heap).notes.map Log.Event.record) =
      (step.perform heap).state.classes := by
  cases step with
  | attach | detach env => rfl
  | collect =>
    exact Log.auditFrom_of_isSilent (by simp [Step.perform, Heap.collect, Log.Event.isSilent]) _
  | operate env operation =>
    rw [Step.perform_operate]
    exact Operation.auditFrom_perform hraw hbare env

/-! ### Runs -/

/-- The events that a run reports, oldest first. -/
def reported (moments : List Moment) : List Log.Event := moments.flatMap fun m => m.outcome.notes

/-- The events of a run and of one more step. -/
theorem reported_concat (start : Heap) (steps : List Step) (step : Step) :
    reported (history start (steps ++ [step])) =
      reported (history start steps) ++ (step.perform (after start steps)).notes := by
  simp [reported, Moment.outcome]

/-- As long as the words last, a run that makes and deletes references through handles and their
words only, whatever fails in it, reports them exactly: the log read from its beginning gives the
class of every reference in the table, and so the number of references of each class. -/
theorem log_accounts_for_references (capacity : Option Nat) (steps : List Step)
    (hwords : (made (history (fresh capacity) steps)).length < 2 ^ 64 - 1)
    (hbare : ∀ step ∈ steps, step.isBare = false) :
    Log.audit ((reported (history (fresh capacity) steps)).map Log.Event.record) =
      (after (fresh capacity) steps).references.mapValues Row.strength ∧
    ∀ strength, (after (fresh capacity) steps).countReferences strength =
      (Log.audit ((reported (history (fresh capacity) steps)).map Log.Event.record)).count
        fun _ s => s = strength := by
  have haudit : Log.audit ((reported (history (fresh capacity) steps)).map Log.Event.record) =
      (after (fresh capacity) steps).classes := by
    induction steps using List.reverseRecOn with
    | nil =>
      rw [classes, after_nil, references_fresh]
      rfl
    | append_singleton steps step ih =>
      have hbefore := Nat.lt_of_le_of_lt (length_made_le_append _ steps [step]) hwords
      have ih := ih hbefore fun s hs => hbare s (List.mem_append_left _ hs)
      rw [Log.audit] at ih ⊢
      rw [reported_concat, List.map_append, Log.auditFrom_append, ih, after_concat]
      exact Step.auditFrom_perform (nextRaw_ne_zero hbefore) (hbare step (by simp))
  refine ⟨haudit, fun strength => ?_⟩
  rw [haudit, countReferences_eq_count]

/-- The log accounts for the table after a release that failed because the class was wrong, and
after one of a word that was never given out. -/
theorem log_accounts_for_failed_releases :
    (made (history (fresh none)
      [.attach, .operate 1 (.alloc "a"), .operate 1 (.createStrong (some 1)),
        .operate 1 (.managed (.newWeakRef (some 1))),
        .operate 1 (.release ⟨.weak, 1, by decide⟩),
        .operate 1 (.managed (.unref 7))])).length < 2 ^ 64 - 1 ∧
    Log.audit ((reported (history (fresh none)
      [.attach, .operate 1 (.alloc "a"), .operate 1 (.createStrong (some 1)),
        .operate 1 (.managed (.newWeakRef (some 1))),
        .operate 1 (.release ⟨.weak, 1, by decide⟩),
        .operate 1 (.managed (.unref 7))])).map Log.Event.record) =
      ⟨[(2, .weak)], by decide⟩ := by
  refine ⟨by decide, ?_⟩
  rw [(log_accounts_for_references none
    [.attach, .operate 1 (.alloc "a"), .operate 1 (.createStrong (some 1)),
      .operate 1 (.managed (.newWeakRef (some 1))),
      .operate 1 (.release ⟨.weak, 1, by decide⟩),
      .operate 1 (.managed (.unref 7))] (by decide) (by decide)).1]
  decide

end Heap

end DurableRefs
