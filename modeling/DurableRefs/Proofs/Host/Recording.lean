import DurableRefs.FunctionTable.Program
import DurableRefs.Proofs.Heap.References
import DurableRefs.Proofs.Host.Agreement

/-!
# Recording what a heap answers

A recorder answers for an environment of a heap, and notes each answer as a call of a function
table that answers so. Apart from these notes it does what the environment does.
-/

namespace DurableRefs

open FunctionTable (Item events)

variable {α β γ δ : Type} {x : Heap.Local}

/-! ### Words for answers -/

/-- The word that a table has for a local: the number of its object, and zero for null. -/
def Heap.toWord : Heap.Local → Int64
  | none => 0
  | some id => id.toUInt64.toInt64

/-- The number of a class in the table's convention; zero for a word that is no reference. -/
def FunctionTable.typeOfStrength : Option Strength → Int64
  | some .strong => 2
  | some .weak => 3
  | none => 0

/-- A class is found again under its number. -/
@[simp] theorem FunctionTable.strengthOfType_typeOfStrength (known : Option Strength) :
    strengthOfType (typeOfStrength known) = known := by
  rcases known with _ | _ | _ <;> rfl

/-- An object whose number is not zero is not taken for null. -/
theorem Heap.toWord_eq_zero_iff (hx : x ≠ some 0) : toWord x = 0 ↔ x = none := by
  cases x with
  | none => simp [toWord]
  | some id =>
    have hid : id ≠ 0 := fun h => hx (congrArg some h)
    refine iff_of_false (fun h => hid ?_) nofun
    have hbits := congrArg (fun w : Int64 => w.toBitVec.toNat) h
    simpa [toWord, ← UInt32.toNat_inj] using hbits

/-- Whether an item of a transcript is a call that ends the host. -/
def FunctionTable.Item.endsHost : Item → Bool
  | .call .fatalError _ _ => true
  | _ => false

/-! ### Recorders -/

namespace Heap

/-- Let an action happen and note a call for its answer after the events that it reports. -/
def recording (calls : α → List Item) (p : Task α) : Action Heap Item Fault α := fun heap =>
  ⟨(p heap).result, (p heap).state, (p heap).notes.map .event ++
    match (p heap).result with
    | .ok a => calls a
    | .error _ => []⟩

/-- An environment of a heap, with the answers noted as calls of a function table. -/
def recorder (env : EnvId) : Host (Action Heap Item Fault) Local where
  null := (host env).null
  isNull := (host env).isNull
  newStrong x := recording (fun raw => [.call .newGlobalRef (.word (toWord x)) (some raw)])
    ((host env).newStrong x)
  newWeak x := recording (fun raw => [.call .newWeakGlobalRef (.word (toWord x)) (some raw)])
    ((host env).newWeak x)
  deleteStrong raw := recording (fun _ => [.call .deleteGlobalRef (.word raw) none])
    ((host env).deleteStrong raw)
  deleteWeak raw := recording (fun _ => [.call .deleteWeakGlobalRef (.word raw) none])
    ((host env).deleteWeak raw)
  newLocal raw := recording (fun x => [.call .newLocalRef (.word raw) (some (toWord x))])
    ((host env).newLocal raw)
  classify raw := recording
    (fun known => [.call .getObjectRefType (.word raw) (some (FunctionTable.typeOfStrength known))])
    ((host env).classify raw)
  pushFrame capacity := recording
    (fun opened => [.call .pushLocalFrame (.capacity capacity) (some (if opened then 0 else -1))])
    ((host env).pushFrame capacity)
  popFrame x := recording
    (fun y => [.call .popLocalFrame (.word (toWord x)) (some (toWord y))]) ((host env).popFrame x)
  fatal reason := recording (fun _ => []) ((host env).fatal reason)
  reject m := recording (fun _ => []) ((host env).reject m)
  emit e := recording (fun _ => []) ((host env).emit e)

/-! ### A recorder does what the environment does -/

/-- How a recorded action ends, by how the action ends: with the same heap and the same events, and
with values that are related or for the same reason. No noted call ends the host. -/
inductive EndsAlike (R : α → β → Prop) :
    Run Heap Item Fault α → Run Heap Log.Event Fault β → Prop
  /-- The two actions return. -/
  | returned {a : α} {b : β} {heap : Heap} {notes : List Item} (hab : R a b)
      (hnotes : ∀ item ∈ notes, item.endsHost = false) :
      EndsAlike R ⟨.ok a, heap, notes⟩ ⟨.ok b, heap, events notes⟩
  /-- The two actions stop. -/
  | stopped {fault : Fault} {heap : Heap} {notes : List Item}
      (hnotes : ∀ item ∈ notes, item.endsHost = false) :
      EndsAlike R ⟨.error fault, heap, notes⟩ ⟨.error fault, heap, events notes⟩

/-- One action is a record of another if it ends alike from every heap. -/
def Records (R : α → β → Prop) (p : Action Heap Item Fault α) (q : Task β) : Prop :=
  ∀ heap, EndsAlike R (p heap) (q heap)

/-- The events of a transcript are those of its parts. -/
theorem events_append (first rest : List Item) :
    events (first ++ rest) = events first ++ events rest :=
  List.filterMap_append

/-- A transcript of events consists of them. -/
theorem events_map_event (es : List Log.Event) : events (es.map .event) = es :=
  List.filterMap_map.trans List.filterMap_some

/-- Returning is recorded. -/
theorem Records.pure {R : α → β → Prop} {a : α} {b : β} (hab : R a b) :
    Records R (Pure.pure a) (Pure.pure b) :=
  fun _ => .returned hab nofun

/-- Going on is recorded if both parts are. -/
theorem Records.bind {R : α → β → Prop} {S : γ → δ → Prop} {p : Action Heap Item Fault α}
    {q : Task β} {f : α → Action Heap Item Fault γ} {g : β → Task δ} (hpq : Records R p q)
    (hfg : ∀ a b, R a b → Records S (f a) (g b)) : Records S (p >>= f) (q >>= g) := by
  intro heap
  have hends := hpq heap
  generalize hp : p heap = first at hends
  generalize hq : q heap = second at hends
  cases hends with
  | stopped hnotes =>
    rw [Action.bind_of_error hp, Action.bind_of_error hq]
    exact .stopped hnotes
  | @returned a b later notes hab hnotes =>
    rw [Action.bind_of_ok hp, Action.bind_of_ok hq]
    have hrest := hfg a b hab later
    generalize f a later = first at hrest
    generalize g b later = second at hrest
    cases hrest with
    | stopped hmore =>
      rw [← events_append]
      exact .stopped (List.forall_mem_append.mpr ⟨hnotes, hmore⟩)
    | returned hcd hmore =>
      rw [← events_append]
      exact .returned hcd (List.forall_mem_append.mpr ⟨hnotes, hmore⟩)

/-- An action is recorded if the noted calls are not taken for events and end no host. -/
theorem records_recording {calls : α → List Item}
    (hcalls : ∀ a, events (calls a) = [] ∧ ∀ item ∈ calls a, item.endsHost = false)
    (p : Task α) : Records Eq (recording calls p) p := by
  intro heap
  rcases hp : p heap with ⟨fault | a, later, notes⟩
  · have hevents : events (notes.map .event ++ []) = notes := by
      rw [List.append_nil, events_map_event]
    simp only [recording, hp]
    conv => arg 3; rw [← hevents]
    refine .stopped ?_
    simp [FunctionTable.Item.endsHost]
  · have hevents : events (notes.map .event ++ calls a) = notes := by
      rw [events_append, events_map_event, (hcalls a).1, List.append_nil]
    simp only [recording, hp]
    conv => arg 3; rw [← hevents]
    refine .returned rfl (List.forall_mem_append.mpr ⟨?_, (hcalls a).2⟩)
    simp [FunctionTable.Item.endsHost]

/-- A recorder agrees with its environment. -/
theorem agree_recorder (env : EnvId) : Host.Agree Eq Records (recorder env) (host env) where
  pure := Records.pure
  bind := Records.bind
  null := rfl
  isNull hxy := congrArg (host env).isNull hxy
  newStrong hxy := hxy ▸ records_recording (by simp [events, FunctionTable.Item.endsHost]) _
  newWeak hxy := hxy ▸ records_recording (by simp [events, FunctionTable.Item.endsHost]) _
  deleteStrong _ := records_recording (by simp [events, FunctionTable.Item.endsHost]) _
  deleteWeak _ := records_recording (by simp [events, FunctionTable.Item.endsHost]) _
  newLocal _ := records_recording (by simp [events, FunctionTable.Item.endsHost]) _
  classify _ := by
    dsimp only [recorder]
    exact records_recording (by simp [events, FunctionTable.Item.endsHost]) _
  fatal failure := by
    intro heap
    refine .stopped ?_
    simp [host, FunctionTable.Item.endsHost]
  emit _ := by
    dsimp only [recorder]
    exact records_recording (by simp [events, FunctionTable.Item.endsHost]) _

/-- A call from managed code ends as with the environment when its recorder answers it. -/
theorem endsAlike_answer (env : EnvId) (call : ManagedCall Local Int64) (heap : Heap) :
    EndsAlike Eq ((recorder env).answer call heap) ((host env).answer call heap) := by
  have hcall : call.Matches Eq call := by cases call <;> constructor <;> rfl
  have hends := (agree_recorder env).answer hcall heap
  generalize (recorder env).answer call heap = first at hends
  generalize (host env).answer call heap = second at hends
  cases hends with
  | stopped hnotes => exact .stopped hnotes
  | returned hab hnotes =>
    refine .returned ?_ hnotes
    cases hab with
    | object hxy => rw [hxy]
    | _ => rfl

/-- The environment leaves the same heap, reports the same events and answers or stops the same. -/
theorem answer_recorder (env : EnvId) (call : ManagedCall Local Int64) (heap : Heap) :
    (host env).answer call heap =
      ⟨((recorder env).answer call heap).result, ((recorder env).answer call heap).state,
        events ((recorder env).answer call heap).notes⟩ := by
  have hends := endsAlike_answer env call heap
  generalize (recorder env).answer call heap = first at hends
  generalize (host env).answer call heap = second at hends
  cases hends with
  | stopped hnotes => rfl
  | returned hab hnotes => rw [hab]

/-- No noted call ends the host. -/
theorem endsHost_of_mem_answer {env : EnvId} {call : ManagedCall Local Int64} {heap : Heap}
    {item : Item} (hitem : item ∈ ((recorder env).answer call heap).notes) :
    item.endsHost = false := by
  have hends := endsAlike_answer env call heap
  generalize (recorder env).answer call heap = first at hends hitem
  generalize (host env).answer call heap = second at hends
  cases hends with
  | stopped hnotes => exact hnotes item hitem
  | returned hab hnotes => exact hnotes item hitem

end Heap

end DurableRefs
