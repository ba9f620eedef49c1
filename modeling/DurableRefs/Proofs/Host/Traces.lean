import DurableRefs.Proofs.FunctionTable.History
import DurableRefs.Proofs.Heap.Audit
import DurableRefs.Proofs.Host.Tracing

/-!
# The traces of whole runs

A heap and a function table are hosts that leave no traces of their own. So the traces of a run on a
heap, and those of a program on a function table, are the traces of what was done with handles, in
the order in which it was done. This holds of the operations that return as well, taken by
themselves, since an operation that fails leaves no trace unless it was to give a handle up.
-/

namespace DurableRefs

open DurableRefs.Action (NotesOnly)

/-! ### Heaps -/

namespace Heap

variable {env : EnvId} {heap : Heap} {operation : Operation Local Handle Int64}
  {request : HandleRequest Local} {Q : Log.Event → Prop}

/-- Looking an object up reports nothing. -/
theorem notesOnly_object (x : Local) : (object x).NotesOnly Q := by
  refine NotesOnly.state.bind fun heap => ?_
  split
  · exact NotesOnly.stop _
  · split
    · exact NotesOnly.pure _
    · exact NotesOnly.stop _

/-- Making a reference reports nothing. -/
theorem notesOnly_newReference (strength : Strength) (x : Local) :
    (object x >>= insertReference strength).NotesOnly Q := by
  refine (notesOnly_object x).bind fun id => NotesOnly.state.bind fun heap => ?_
  split
  · exact NotesOnly.pure _
  · exact (NotesOnly.put _).bind fun _ => NotesOnly.pure _

/-- Deleting a reference reports nothing. -/
theorem notesOnly_delete (raw : Int64) (strength : Strength) :
    (if raw = 0 then pure () else removeReference raw strength : Task Unit).NotesOnly Q := by
  split
  · exact NotesOnly.pure ()
  · refine NotesOnly.state.bind fun heap => ?_
    split
    · exact NotesOnly.stop _
    · refine (NotesOnly.put _).bind fun _ => ?_
      split
      · exact NotesOnly.pure ()
      · exact NotesOnly.stop _

/-- A heap notes what is reported and leaves no traces of its own. -/
theorem reports_host (env : EnvId) : (host env).Reports some where
  emit e := ⟨e, rfl, rfl⟩
  isNull_null := rfl
  newStrong x := notesOnly_newReference .strong x
  newWeak x := notesOnly_newReference .weak x
  deleteStrong raw := notesOnly_delete raw .strong
  deleteWeak raw := notesOnly_delete raw .weak
  newLocal raw := notesOnly_newLocal env raw
  classify raw := NotesOnly.state.bind fun _ => NotesOnly.pure _
  pushFrame capacity := notesOnly_pushFrame env capacity
  popFrame x := notesOnly_popFrame env x
  fatal reason := by
    have hnote : Untraced some (Action.note (.aborting env reason) : Task Unit) := by
      apply NotesOnly.note
      rintro e ⟨⟩
      rfl
    exact hnote.bind fun _ => NotesOnly.stop _
  fatal_stops reason heap := ⟨.fatal reason, rfl⟩
  reject m := NotesOnly.stop _
  reject_stops m heap := ⟨.misapplied m, rfl⟩

/-- The operation on a handle that an operation is. -/
def Operation.request? : Operation Local Handle Int64 → Option (HandleRequest Local)
  | .createStrong x => some (.createStrong x)
  | .createWeak x => some (.createWeak x)
  | .release h => some (.release h)
  | .resolve h => some (.resolve h)
  | .resolveWeak h => some (.resolveWeak h)
  | .managed call => some (.managed call)
  | _ => none

/-- An operation on a handle is the operation on the heap that asks for it, without the answer. -/
theorem Operation.run_of_request? (hrequest : operation.request? = some request) (env : EnvId) :
    request.run (host env) = operation.perform env >>= fun _ => pure () := by
  cases operation with
  | createStrong x | createWeak x | release h | resolve h | resolveWeak h | managed call =>
    cases hrequest
    simp only [perform, HandleRequest.run, bind_assoc, pure_bind, bind_pure_unit]
  | _ => cases hrequest

/-- An operation that is none on a handle leaves no traces. -/
theorem Operation.untraced_perform (hrequest : operation.request? = none) (env : EnvId) :
    Untraced some (operation.perform env) := by
  have hhost := reports_host env
  cases operation with
  | createStrong x | createWeak x | release h | resolve h | resolveWeak h | managed call =>
    cases hrequest
  | alloc text => exact (notesOnly_alloc env text).bind fun _ => NotesOnly.pure _
  | null | isNull x | same x y => exact NotesOnly.pure _
  | deleteLocal x => exact (notesOnly_deleteLocal env x).bind fun _ => NotesOnly.pure _
  | label x =>
    refine NotesOnly.bind ?_ fun _ => NotesOnly.pure _
    exact NotesOnly.state.bind fun _ => NotesOnly.pure _
  | newStrong x => exact (hhost.newStrong x).bind fun _ => NotesOnly.pure _
  | newWeak x => exact (hhost.newWeak x).bind fun _ => NotesOnly.pure _
  | deleteStrong raw => exact (hhost.deleteStrong raw).bind fun _ => NotesOnly.pure _
  | deleteWeak raw => exact (hhost.deleteWeak raw).bind fun _ => NotesOnly.pure _
  | newLocal raw => exact (hhost.newLocal raw).bind fun _ => NotesOnly.pure _
  | classify raw => exact (hhost.classify raw).bind fun _ => NotesOnly.pure _
  | pushFrame room => exact (hhost.pushFrame room).bind fun _ => NotesOnly.pure _
  | openFrame room => exact (hhost.untraced_openFrame room).bind fun _ => NotesOnly.pure _
  | popFrame x | closeFrameWith x => exact (hhost.popFrame x).bind fun _ => NotesOnly.pure _
  | closeFrame =>
    refine NotesOnly.bind ?_ fun _ => NotesOnly.pure _
    exact (hhost.popFrame none).bind fun _ => NotesOnly.pure _
  | fatal reason => exact hhost.fatal reason

/-- What the step of a moment does with a handle, if it does anything. -/
def Moment.use? (m : Moment) : Option HandleUse :=
  match m.step with
  | .operate env operation => operation.request?.bind fun request => request.use? (host env) m.heap
  | _ => none

/-- The traces of a step belong to what it does with a handle. -/
theorem Moment.traces_eq (m : Moment) :
    m.outcome.notes.filter Log.Event.isTrace = HandleRequest.tracesOf m.use? := by
  obtain ⟨heap, step⟩ := m
  cases step with
  | attach | detach env => rfl
  | collect => simp [Moment.outcome, Moment.use?, Step.perform, Heap.collect, Log.Event.isTrace,
      Log.Event.record, HandleRequest.tracesOf]
  | operate env operation =>
    rw [Moment.outcome, Step.perform_operate, Moment.use?, ← tracesIn_some]
    dsimp only
    cases hrequest : operation.request? with
    | none => exact (Operation.untraced_perform hrequest env).tracesIn_eq heap
    | some request =>
      have hrun := (reports_host env).tracesIn_run request heap
      rw [Operation.run_of_request? hrequest, Action.bind_pure_apply] at hrun
      exact hrun

/-- The traces of moments belong to what their steps do with handles. -/
theorem traces_reported (moments : List Moment) :
    (reported moments).filter Log.Event.isTrace =
      (moments.filterMap Moment.use?).flatMap HandleUse.traces := by
  have hnotes : ∀ m : Moment, tracesIn some m.outcome.notes = HandleRequest.tracesOf m.use? := by
    intro m
    rw [tracesIn_some, m.traces_eq]
  rw [← tracesIn_some]
  exact HandleRequest.tracesIn_flatMap hnotes moments

/-- Whether the step of a moment returns. -/
def Moment.returns (m : Moment) : Bool := m.outcome.result.isOk

/-- What the step of a moment does with a handle, if it does anything and returns. -/
def Moment.completed? (m : Moment) : Option HandleUse :=
  if m.returns then m.use? else none

/-- A step that fails after it has done something with a handle was to give the handle up. -/
theorem Moment.use?_of_failed {m : Moment} {u : HandleUse} (hfailed : m.returns = false)
    (huse : m.use? = some u) : ∃ h, u = .released h := by
  obtain ⟨heap, step⟩ := m
  cases step with
  | attach | detach env | collect => cases huse
  | operate env operation =>
    obtain ⟨request, hrequest, hused⟩ := Option.bind_eq_some_iff.mp huse
    rw [Moment.returns, Moment.outcome, Step.perform_operate] at hfailed
    cases hresult : (operation.perform env heap).result with
    | ok answer =>
      rw [hresult] at hfailed
      cases hfailed
    | error e =>
      have herror : (request.run (host env) heap).result = .error e := by
        rw [Operation.run_of_request? hrequest]
        exact Action.result_bind_pure_eq_error_iff.mpr hresult
      exact HandleRequest.use?_of_error herror hused

/-- The traces of the steps that return belong to what these do with handles. -/
theorem traces_returned (moments : List Moment) :
    (reported (moments.filter Moment.returns)).filter Log.Event.isTrace =
      (moments.filterMap Moment.completed?).flatMap HandleUse.traces := by
  rw [traces_reported, List.filterMap_filter]
  rfl

end Heap

/-! ### Function tables -/

namespace FunctionTable

variable {table : FunctionTable} {c : Call} {request : HandleRequest Int64}

/-- The event of an item, if it is one. -/
def Item.event? : Item → Option Log.Event
  | .event e => some e
  | _ => none

/-- The traces among the items of a transcript are those among its events. -/
theorem tracesIn_event? (items : List Item) :
    tracesIn Item.event? items = (events items).filter Log.Event.isTrace := by
  have hsame : Item.event? = fun
      | .event e => some e
      | _ => none := by
    funext item
    cases item <;> rfl
  rw [tracesIn, hsame]
  rfl

/-- An event that is no trace leaves none. -/
theorem untraced_emit {e : Log.Event} (he : e.isTrace = false) :
    Untraced Item.event? (emit e) := by
  refine NotesOnly.note ?_
  rintro e' ⟨⟩
  exact he

/-- A function that is required leaves no traces, even if it is missing. -/
theorem untraced_require (entry : Entry) : Untraced Item.event? (require entry) := by
  refine NotesOnly.state.bind fun table => ?_
  split
  · exact (untraced_emit rfl).bind fun _ => NotesOnly.stop _
  · exact NotesOnly.pure ()

/-- A function that answers leaves no traces. -/
theorem untraced_ask (entry : Entry) (argument : Argument) :
    Untraced Item.event? (ask entry argument) := by
  have hscripted : Untraced Item.event? (takeScripted entry) := by
    intro table
    rw [takeScripted_eq]
    nofun
  refine (untraced_require entry).bind fun _ => hscripted.bind fun w => ?_
  refine NotesOnly.bind (NotesOnly.note ?_) fun _ => NotesOnly.pure w
  rintro e ⟨⟩

/-- A function that does not answer leaves no traces. -/
theorem untraced_tell (entry : Entry) (argument : Argument) :
    Untraced Item.event? (tell entry argument) := by
  refine (untraced_require entry).bind fun _ => NotesOnly.note ?_
  rintro e ⟨⟩

/-- A function table notes what is reported and leaves no traces of its own. -/
theorem reports_host : host.Reports Item.event? where
  emit e := ⟨.event e, rfl, rfl⟩
  isNull_null := rfl
  newStrong x := untraced_ask .newGlobalRef (.word x)
  newWeak x := untraced_ask .newWeakGlobalRef (.word x)
  deleteStrong raw := untraced_tell .deleteGlobalRef (.word raw)
  deleteWeak raw := untraced_tell .deleteWeakGlobalRef (.word raw)
  newLocal raw := untraced_ask .newLocalRef (.word raw)
  classify raw := by
    simp only [host]
    split
    · exact NotesOnly.pure none
    · exact (untraced_ask .getObjectRefType (.word raw)).bind fun _ => NotesOnly.pure _
  pushFrame capacity :=
    (untraced_ask .pushLocalFrame (.capacity capacity)).bind fun _ => NotesOnly.pure _
  popFrame x := untraced_ask .popLocalFrame (.word x)
  fatal reason :=
    (untraced_tell .fatalError (.text (hostText reason))).bind fun _ => NotesOnly.stop _
  fatal_stops reason table := by
    cases hrun : tell .fatalError (.text (hostText reason)) table with
    | mk result later items =>
      cases result with
      | error stop => exact ⟨stop, by simp [host, hrun]⟩
      | ok _ => exact ⟨.ended, by simp [host, hrun]⟩
  reject m := NotesOnly.stop _
  reject_stops m table := ⟨.misapplied m, rfl⟩

/-- The operation on a handle that a call is. There is none if the call is refused because its word
and its class make no handle. -/
def Call.request? : Call → Option (HandleRequest Int64)
  | .managed _ call => some (.managed call)
  | .createStrong x => some (.createStrong x)
  | .createWeak x => some (.createWeak x)
  | .release raw (some strength) => (Handle.ofRaw? raw strength).map .release
  | .resolve raw (some strength) => (Handle.ofRaw? raw strength).map .resolve
  | .resolveWeak raw (some strength) => (Handle.ofRaw? raw strength).map .resolveWeak
  | _ => none

/-- An operation on a handle is the call that asks for it, without the value. -/
theorem Call.run_of_request? (hrequest : c.request? = some request) :
    request.run host = c.run >>= fun _ => pure () := by
  cases c with
  | managed caller call | createStrong x | createWeak x =>
    cases hrequest
    simp only [run, HandleRequest.run, bind_assoc, pure_bind]
  | release raw known | resolve raw known =>
    cases known with
    | none => cases hrequest
    | some strength =>
      obtain ⟨h, hraw, rfl⟩ := Option.map_eq_some_iff.mp hrequest
      simp only [run, takeHandle, hraw, HandleRequest.run, bind_assoc, pure_bind, bind_pure_unit]
  | resolveWeak raw known =>
    cases known with
    | none => cases hrequest
    | some strength =>
      obtain ⟨h, hraw, rfl⟩ := Option.map_eq_some_iff.mp hrequest
      simp only [run, takeHandle, hraw, HandleRequest.run, bind_assoc, pure_bind]
      -- The value depends on the referent, but it is dropped either way.
      congr 1
      funext found
      cases found <;> rfl
  | _ => cases hrequest

/-- A call that is no operation on a handle leaves no traces. -/
theorem Call.untraced_run (hrequest : c.request? = none) : Untraced Item.event? c.run := by
  have hhost := reports_host
  have hrefused : ∀ {raw : Int64} {known : Option Strength} {f : Handle → Task Value},
      (known.bind fun strength => Handle.ofRaw? raw strength) = none →
        Untraced Item.event? (takeHandle raw known >>= f) := by
    intro raw known f hnone
    have hstop : ∃ stop, takeHandle raw known = Action.stop stop := by
      cases known with
      | none => exact ⟨_, rfl⟩
      | some strength => exact ⟨.zeroHandle, by simp_all [takeHandle]⟩
    obtain ⟨stop, hstop⟩ := hstop
    rw [hstop]
    intro table
    rw [Action.bind_of_error (Action.stop_apply stop table)]
    nofun
  cases c with
  | managed caller call | createStrong x | createWeak x => cases hrequest
  | release raw known | resolve raw known | resolveWeak raw known =>
    cases known with
    | none => exact hrefused rfl
    | some strength => exact hrefused (Option.map_eq_none_iff.mp hrequest)
  | null | isNull x | roundTrip x => exact NotesOnly.pure _
  | newStrong x => exact (hhost.newStrong x).bind fun _ => NotesOnly.pure _
  | newWeak x => exact (hhost.newWeak x).bind fun _ => NotesOnly.pure _
  | deleteStrong raw => exact (hhost.deleteStrong raw).bind fun _ => NotesOnly.pure _
  | deleteWeak raw => exact (hhost.deleteWeak raw).bind fun _ => NotesOnly.pure _
  | newLocal raw => exact (hhost.newLocal raw).bind fun _ => NotesOnly.pure _
  | classify raw => exact (hhost.classify raw).bind fun _ => NotesOnly.pure _
  | pushFrame capacity => exact (hhost.pushFrame capacity).bind fun _ => NotesOnly.pure _
  | popFrame x => exact (hhost.popFrame x).bind fun _ => NotesOnly.pure _
  | fatal reason => exact hhost.fatal reason
  | unknown name => exact NotesOnly.stop _

/-- What the deed of a moment does with a handle, if it does anything. -/
def Moment.use? (m : Moment) : Option HandleUse :=
  match m.deed with
  | .call c => c.request?.bind fun request => request.use? host m.table
  | _ => none

/-- The traces of a deed belong to what it does with a handle. -/
theorem Moment.traces_eq (m : Moment) :
    tracesIn Item.event? m.outcome.notes = HandleRequest.tracesOf m.use? := by
  obtain ⟨table, enclosing, deed⟩ := m
  cases deed with
  | call c =>
    rw [Moment.outcome_of_call rfl, Moment.use?]
    dsimp only
    cases hrequest : c.request? with
    | none => exact (Call.untraced_run hrequest).tracesIn_eq table
    | some request =>
      have hrun := reports_host.tracesIn_run request table
      rw [Call.run_of_request? hrequest, Action.bind_pure_apply] at hrun
      exact hrun
  | openFrame capacity =>
    have hopen : Untraced Item.event? (Deed.openFrame capacity).run :=
      (reports_host.untraced_openFrame capacity).bind fun _ => NotesOnly.pure _
    exact hopen.tracesIn_eq table
  | closeFrame x =>
    have hclose : Untraced Item.event? (Deed.closeFrame x).run :=
      (reports_host.popFrame x).bind fun _ => NotesOnly.pure _
    exact hclose.tracesIn_eq table

/-- Whether the deed of a moment returns. -/
def Moment.returns (m : Moment) : Bool := m.outcome.result.isOk

/-- What the deed of a moment does with a handle, if it does anything and returns. -/
def Moment.completed? (m : Moment) : Option HandleUse :=
  if m.returns then m.use? else none

/-- A deed that fails after it has done something with a handle was to give the handle up. -/
theorem Moment.use?_of_failed {m : Moment} {u : HandleUse} (hfailed : m.returns = false)
    (huse : m.use? = some u) : ∃ h, u = .released h := by
  obtain ⟨table, enclosing, deed⟩ := m
  cases deed with
  | openFrame capacity | closeFrame x => cases huse
  | call c =>
    obtain ⟨request, hrequest, hused⟩ := Option.bind_eq_some_iff.mp huse
    rw [Moment.returns, Moment.outcome_of_call rfl] at hfailed
    cases hresult : (c.run table).result with
    | ok value =>
      rw [hresult] at hfailed
      cases hfailed
    | error stop =>
      have herror : (request.run host table).result = .error stop := by
        rw [Call.run_of_request? hrequest]
        exact Action.result_bind_pure_eq_error_iff.mpr hresult
      exact HandleRequest.use?_of_error herror hused

/-- The items that deeds leave behind. -/
def itemsOf (moments : List Moment) : List Item := moments.flatMap fun m => m.outcome.notes

/-- The traces of moments belong to what their deeds do with handles. -/
theorem traces_itemsOf (moments : List Moment) :
    tracesIn Item.event? (itemsOf moments) =
      (moments.filterMap Moment.use?).flatMap HandleUse.traces :=
  HandleRequest.tracesIn_flatMap Moment.traces_eq moments

/-- The traces of the deeds that return belong to what these do with handles. -/
theorem traces_returned (moments : List Moment) :
    tracesIn Item.event? (itemsOf (moments.filter Moment.returns)) =
      (moments.filterMap Moment.completed?).flatMap HandleUse.traces := by
  rw [traces_itemsOf, List.filterMap_filter]
  rfl

/-- The traces of a transcript belong to what the deeds that it tells do with handles. -/
theorem Tells.traces_eq {ms : List Moment} {items : List Item} (h : Tells ms items) :
    tracesIn Item.event? items = (ms.filterMap Moment.use?).flatMap HandleUse.traces := by
  induction h with
  | nil => rfl
  | deed m _ ih =>
    rw [tracesIn_append, m.traces_eq, ih, List.filterMap_cons]
    cases m.use? <;> rfl
  | returned _ _ _ ih | failed _ _ ih => exact ih

/-- A transcript tells the history of its program, whatever functions are missing. -/
theorem tells_transcript (table : FunctionTable) (steps : List Step) :
    Tells (deeds table steps) (transcript table steps).1 := by
  rcases transcript_cases table steps with
    ⟨htells, -⟩ | ⟨ms, m, items, hdeeds, hitems, -, htells, -⟩
  · exact htells
  · rw [hdeeds, hitems]
    exact htells.append (tells_outcome m)

end FunctionTable

/-! ### Everything that is done with handles -/

/-- On a heap and on a function table, whatever fails and whatever is missing, every operation
traces what it does with its handle and nothing else does. The traces of a run tell in order, each
with its word and its class, which handles were made and given up, and they tell everything that was
done with handles exactly if this is all that was done. A handle from which a local is made is not
traced, and a weak handle whose referent is gone is traced once, with its word alone. The operations
that return, taken by themselves, are traced by the same rule. An operation that fails has done
nothing with its handle, unless it was to give the handle up. -/
theorem traces_tell_handles (start : Heap) (steps : List Heap.Step) (table : FunctionTable)
    (program : List FunctionTable.Step) :
    (∀ m ∈ Heap.history start steps,
      TracesOf m.use?.toList (m.outcome.notes.filter Log.Event.isTrace)) ∧
    TracesOf ((Heap.history start steps).filterMap Heap.Moment.use?)
      ((Heap.reported (Heap.history start steps)).filter Log.Event.isTrace) ∧
    (∀ m ∈ FunctionTable.deeds table program,
      TracesOf m.use?.toList
        ((FunctionTable.events m.outcome.notes).filter Log.Event.isTrace)) ∧
    TracesOf ((FunctionTable.deeds table program).filterMap FunctionTable.Moment.use?)
      ((FunctionTable.events (FunctionTable.transcript table program).1).filter
        Log.Event.isTrace) ∧
    (∀ h : Handle, (HandleUse.resolved h).traces = [] ∧
      ∃ e, (HandleUse.foundGone h).traces = [e] ∧ e.isTrace = true ∧
        e.record.fields = [("raw", .number h.raw.toInt)]) ∧
    TracesOf ((Heap.history start steps).filterMap Heap.Moment.completed?)
      ((Heap.reported ((Heap.history start steps).filter Heap.Moment.returns)).filter
        Log.Event.isTrace) ∧
    (∀ m ∈ Heap.history start steps, m.returns = false →
      ∀ u, m.use? = some u → ∃ h, u = .released h) ∧
    TracesOf ((FunctionTable.deeds table program).filterMap FunctionTable.Moment.completed?)
      ((FunctionTable.events (FunctionTable.itemsOf
        ((FunctionTable.deeds table program).filter FunctionTable.Moment.returns))).filter
          Log.Event.isTrace) ∧
    ∀ m ∈ FunctionTable.deeds table program, m.returns = false →
      ∀ u, m.use? = some u → ∃ h, u = .released h := by
  refine ⟨?_, ?_, ?_, ?_, ?_, ?_, ?_, ?_, ?_⟩
  · intro m _
    apply TracesOf.of_eq
    rw [m.traces_eq, HandleRequest.tracesOf_eq]
  · apply TracesOf.of_eq
    exact Heap.traces_reported _
  · intro m _
    apply TracesOf.of_eq
    rw [← FunctionTable.tracesIn_event?, m.traces_eq, HandleRequest.tracesOf_eq]
  · apply TracesOf.of_eq
    rw [← FunctionTable.tracesIn_event?]
    exact (FunctionTable.tells_transcript table program).traces_eq
  · intro h
    exact ⟨rfl, .referentGone h.raw, rfl, rfl, rfl⟩
  · apply TracesOf.of_eq
    exact Heap.traces_returned _
  · intro m _ hfailed u huse
    exact m.use?_of_failed hfailed huse
  · apply TracesOf.of_eq
    rw [← FunctionTable.tracesIn_event?]
    exact FunctionTable.traces_returned _
  · intro m _ hfailed u huse
    exact m.use?_of_failed hfailed huse

/-- A strong handle is resolved after it has been made. -/
def strongResolved : Heap.Moment where
  heap := Heap.after (Heap.fresh none)
    [.attach, .operate 1 (.alloc "a"), .operate 1 (.createStrong (some 1))]
  step := .operate 1 (.resolve (Heap.firstHandle .strong))

/-- A weak handle is resolved after its referent has been collected. -/
def weakFoundGone : Heap.Moment where
  heap := Heap.after (Heap.fresh none)
    [.attach, .operate 1 (.alloc "a"), .operate 1 (.createWeak (some 1)),
      .operate 1 (.deleteLocal (some 1)), .collect]
  step := .operate 1 (.resolveWeak (Heap.firstHandle .weak))

/-- Resolving a strong handle, and finding the referent of a weak one gone, are operations that
return, but they leave no trace with the word and the class of the handle. -/
theorem resolved_handles_not_told :
    (strongResolved.use? = some (.resolved (Heap.firstHandle .strong)) ∧
      strongResolved.outcome.result = .ok (.answer (.object (some 1))) ∧
      ¬ Told (strongResolved.outcome.notes.filter Log.Event.isTrace)
          strongResolved.use?.toList) ∧
    (weakFoundGone.use? = some (.foundGone (Heap.firstHandle .weak)) ∧
      weakFoundGone.outcome.result = .ok (.answer (.referent none)) ∧
      ¬ Told (weakFoundGone.outcome.notes.filter Log.Event.isTrace) weakFoundGone.use?.toList) := by
  have hstrong : strongResolved.use? = some (.resolved (Heap.firstHandle .strong)) := by decide
  have hweak : weakFoundGone.use? = some (.foundGone (Heap.firstHandle .weak)) := by decide
  refine ⟨⟨hstrong, rfl, ?_⟩, hweak, rfl, ?_⟩
  · rw [strongResolved.traces_eq, HandleRequest.tracesOf_eq, told_traces_iff, hstrong]
    decide
  · rw [weakFoundGone.traces_eq, HandleRequest.tracesOf_eq, told_traces_iff, hweak]
    decide

end DurableRefs
