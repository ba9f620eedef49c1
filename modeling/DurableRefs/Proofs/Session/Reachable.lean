import DurableRefs.Proofs.Action
import DurableRefs.Proofs.Heap.Changes
import DurableRefs.Session.Step

/-!
# Sessions run their heaps

Whatever a session does to one of its heaps is a step of that heap, in scopes and repetitions,
under failures and on the way out of them. So the heaps of a session are always heaps after some
run, and what holds after every run holds throughout every session.
-/

namespace DurableRefs

namespace Heap

variable {heap : Heap}

/-- A heap to which a run from a fresh heap leads. -/
def Reachable (heap : Heap) : Prop := ∃ capacity steps, heap = after (fresh capacity) steps

/-- A fresh heap is reachable without steps. -/
theorem reachable_fresh (capacity : Option Nat) : (fresh capacity).Reachable :=
  ⟨capacity, [], rfl⟩

/-- A reachable heap stays reachable in every step. -/
theorem Reachable.perform (h : heap.Reachable) (step : Step) :
    (step.perform heap).state.Reachable := by
  obtain ⟨capacity, steps, rfl⟩ := h
  exact ⟨capacity, steps ++ [step], (after_concat _ _ _).symm⟩

/-- Attaching an environment is a step. -/
theorem Reachable.attach (h : heap.Reachable) : (Heap.attach heap).state.Reachable :=
  h.perform .attach

/-- Detaching an environment is a step. -/
theorem Reachable.detach (h : heap.Reachable) (env : EnvId) :
    (Heap.detach env heap).state.Reachable :=
  h.perform (.detach env)

/-- A collection is a step. -/
theorem Reachable.collect (h : heap.Reachable) : (Heap.collect heap).state.Reachable :=
  h.perform .collect

/-- Performing an operation is a step. -/
theorem Reachable.operate (h : heap.Reachable) (env : EnvId)
    (operation : Operation Local Handle Int64) : (operation.perform env heap).state.Reachable := by
  have hstep := h.perform (.operate env operation)
  rwa [Step.perform_operate] at hstep

/-- Looking at the frames of an environment changes nothing. -/
theorem Reachable.frames (h : heap.Reachable) (env : EnvId) :
    (Heap.frames env heap).state.Reachable := by
  cases hf : heap.attached.get? env with
  | none => rwa [frames_of_notAttached hf]
  | some f => rwa [frames_of_attached hf]

end Heap

namespace Session

open DurableRefs.Action (Keeps)

variable {α : Type} {P : Session → Prop}

/-- All heaps of a session are reachable. -/
def HeapsReachable (s : Session) : Prop := ∀ heap ∈ s.heaps, heap.Reachable

/-- Looking a name up keeps everything. -/
theorem keeps_find (names : Session → Table String α) (name : String) :
    (find names name).Keeps P := by
  refine Keeps.state.bind fun s => ?_
  split
  · exact Keeps.pure _
  · exact Keeps.stop _

/-- Looking a local up keeps everything. -/
theorem keeps_findLocal (name : Option String) : (findLocal name).Keeps P := by
  cases name with
  | none => exact Keeps.pure _
  | some name => exact keeps_find locals name

/-- Looking a word up keeps everything. -/
theorem keeps_findWord (word : WordName) : (findWord word).Keeps P := by
  cases word with
  | value raw => exact Keeps.pure _
  | named name => exact keeps_find words name
  | missing => exact Keeps.stop _

/-- Looking for a place keeps everything. -/
theorem keeps_findPlace (index : Int) : (findPlace index).Keeps P := by
  refine Keeps.state.bind fun s => ?_
  split
  · exact Keeps.pure _
  · exact Keeps.stop _

/-- Looking up all that a call names keeps everything. -/
theorem keeps_mapM_call (call : ManagedCall (Option String) WordName) :
    (call.mapM findLocal findWord).Keeps P := by
  cases call with
  | newRef x | newWeakRef x => exact (keeps_findLocal x).bind fun _ => Keeps.pure _
  | unref raw | get raw | getWeak raw => exact (keeps_findWord raw).bind fun _ => Keeps.pure _

/-- Looking up all that an operation names keeps everything. -/
theorem keeps_mapM_operation (operation : Heap.Operation (Option String) String WordName) :
    (operation.mapM findLocal (find handles) findWord).Keeps P := by
  cases operation with
  | alloc | null | pushFrame | openFrame | closeFrame | fatal => exact Keeps.pure _
  | deleteLocal x | isNull x | label x | createStrong x | createWeak x | newStrong x
  | newWeak x | popFrame x | closeFrameWith x =>
    exact (keeps_findLocal x).bind fun _ => Keeps.pure _
  | same x y =>
    exact (keeps_findLocal x).bind fun _ => (keeps_findLocal y).bind fun _ => Keeps.pure _
  | release h | resolve h | resolveWeak h =>
    exact (keeps_find handles h).bind fun _ => Keeps.pure _
  | deleteStrong raw | deleteWeak raw | newLocal raw | classify raw =>
    exact (keeps_findWord raw).bind fun _ => Keeps.pure _
  | managed call => exact (keeps_mapM_call call).bind fun _ => Keeps.pure _

/-- What is done on a heap keeps the heaps reachable if it keeps a heap reachable. -/
theorem keeps_onHeap (place : Nat) {task : Heap.Task α}
    (htask : ∀ heap : Heap, heap.Reachable → (task heap).state.Reachable) :
    (onHeap place task).Keeps HeapsReachable := by
  intro s hs heap hheap
  unfold onHeap at hheap
  split at hheap
  · exact hs heap hheap
  · next found hfound =>
    rcases List.mem_or_eq_of_mem_set hheap with hheap | rfl
    · exact hs heap hheap
    · exact htask found (hs found (List.mem_of_getElem? hfound))

/-- Performing an operation on a heap keeps the heaps reachable. -/
theorem keeps_onHeap_perform (place : Nat) (env : Heap.EnvId)
    (operation : Heap.Operation Heap.Local Handle Int64) :
    (onHeap place (operation.perform env)).Keeps HeapsReachable :=
  keeps_onHeap place fun _ h => h.operate env operation

/-- Naming an answer leaves the heaps alone. -/
theorem keeps_bindAnswer (name : Option String) (answer : Heap.Answer) :
    (bindAnswer name answer).Keeps HeapsReachable := by
  unfold bindAnswer forgetHandle
  split <;> first | exact Keeps.pure _ | exact Keeps.change fun _ hs => hs

/-- Detaching an environment keeps the heaps reachable. -/
theorem keeps_detach (a : Attachment) : (Session.detach a).Keeps HeapsReachable := by
  refine (keeps_onHeap a.place fun _ h => h.detach a.env).bind fun _ => ?_
  exact Keeps.change fun _ hs => hs

/-- Performing a named operation keeps the heaps reachable. -/
theorem keeps_operate (env : String)
    (operation : Heap.Operation (Option String) String WordName) :
    (operate env operation).Keeps HeapsReachable := by
  refine (keeps_find envs env).bind fun a => ?_
  refine (keeps_mapM_operation operation).bind fun resolved => ?_
  have hperform := keeps_onHeap_perform a.place a.env resolved
  split
  · refine Keeps.bind (Keeps.change ?_) fun _ => hperform
    exact fun _ hs => hs
  · exact hperform

/-- Doing a single thing keeps the heaps reachable. -/
theorem keeps_act (env : String) (name : Option String) (act : Act) :
    (act.run env name).Keeps HeapsReachable := by
  cases act with
  | attach index =>
    refine (keeps_findPlace index).bind fun place => ?_
    refine (keeps_onHeap place fun _ h => h.attach).bind fun id => ?_
    refine Keeps.state.bind fun s => ?_
    refine Keeps.bind (Keeps.change fun _ hs => hs) fun _ => ?_
    dsimp only
    split
    · exact (keeps_detach _).bind fun _ => Keeps.pure _
    · exact Keeps.pure _
  | detach =>
    refine (keeps_find envs env).bind fun a => ?_
    refine Keeps.bind (Keeps.change fun _ hs => hs) fun _ => ?_
    exact (keeps_detach a).bind fun _ => Keeps.pure _
  | collectOwn =>
    refine (keeps_find envs env).bind fun a => ?_
    exact (keeps_onHeap a.place fun _ h => h.collect).bind fun _ => Keeps.pure _
  | collect index =>
    refine (keeps_findPlace index).bind fun place => ?_
    exact (keeps_onHeap place fun _ h => h.collect).bind fun _ => Keeps.pure _
  | operate operation =>
    refine (keeps_operate env operation).bind fun answer => ?_
    exact (keeps_bindAnswer name answer).bind fun _ => Keeps.pure _
  | adopt raw strength =>
    refine (keeps_findWord raw).bind fun raw => ?_
    cases strength with
    | none => exact Keeps.stop _
    | some strength => exact (keeps_bindAnswer name _).bind fun _ => Keeps.pure _
  | disown h =>
    refine (keeps_find handles h).bind fun handle => ?_
    refine Keeps.bind (Keeps.change fun _ hs => hs) fun _ => ?_
    exact (keeps_bindAnswer name _).bind fun _ => Keeps.pure _
  | inspect h => exact (keeps_find handles h).bind fun _ => Keeps.pure _
  | equal h g =>
    exact (keeps_find handles h).bind fun _ => (keeps_find handles g).bind fun _ => Keeps.pure _
  | defaultCapacity => exact Keeps.pure _
  | openGuard capacity =>
    refine (keeps_find envs env).bind fun a => ?_
    refine (keeps_onHeap_perform a.place a.env _).bind fun answer => ?_
    cases name with
    | none => exact Keeps.pure _
    | some name => exact Keeps.bind (Keeps.change fun _ hs => hs) fun _ => Keeps.pure _
  | dropGuard guard =>
    refine (keeps_find guards guard).bind fun a => ?_
    refine Keeps.bind (Keeps.change fun _ hs => hs) fun _ => ?_
    exact (keeps_onHeap_perform a.place a.env _).bind fun _ => Keeps.pure _
  | closeGuard guard x =>
    refine (keeps_findLocal x).bind fun carried => ?_
    refine (keeps_find guards guard).bind fun a => ?_
    refine Keeps.bind (Keeps.change fun _ hs => hs) fun _ => ?_
    refine (keeps_onHeap_perform a.place a.env _).bind fun answer => ?_
    exact (keeps_bindAnswer name answer).bind fun _ => Keeps.pure _
  | inspectGuard guard =>
    refine (keeps_find guards guard).bind fun a => ?_
    exact (keeps_onHeap a.place fun _ h => h.frames a.env).bind fun _ => Keeps.pure _
  | unknown word => exact Keeps.stop _

/-- Telling about a step keeps everything. -/
theorem keeps_report (env : String) (outcome : Except Failure Answer) :
    (report env outcome).Keeps P :=
  Keeps.state.bind fun _ => Keeps.note _

/-- Telling about a step unless it is silent keeps everything. -/
theorem keeps_reportUnless (silent : Bool) (env : String) (answer : Answer) :
    (reportUnless silent env answer).Keeps P := by
  unfold reportUnless
  split
  · exact Keeps.pure _
  · exact keeps_report env _

/-- A scope keeps the heaps reachable if its body does, whether or not the body fails. -/
theorem keeps_inScope (a : Attachment) (capacity : Option Int32) {body : Task (Option Heap.Local)}
    (hbody : body.Keeps HeapsReachable) : (inScope a capacity body).Keeps HeapsReachable := by
  refine (keeps_onHeap_perform a.place a.env _).bind fun _ => ?_
  refine hbody.attempt.bind fun result => ?_
  split
  · exact keeps_onHeap_perform a.place a.env _
  · exact keeps_onHeap_perform a.place a.env _
  · exact (keeps_onHeap_perform a.place a.env _).attempt.bind fun _ => Keeps.stop _

mutual

/-- A step keeps the heaps reachable. -/
theorem Step.keeps_run (silent : Bool) : ∀ step : Step, (step.run silent).Keeps HeapsReachable
  | .act env single name => by
    rw [Step.run]
    exact (keeps_act env name single).bind fun answer => keeps_reportUnless silent env answer
  | .scope env capacity body carried name => by
    unfold Step.run
    refine (keeps_find envs env).bind fun a => ?_
    refine (keeps_inScope a capacity ?_).bind fun answer => ?_
    · refine (Step.keeps_runAll silent body).bind fun _ => ?_
      cases carried with
      | none => exact Keeps.pure _
      | some x => exact (keeps_findLocal x).bind fun _ => Keeps.pure _
    · exact (keeps_bindAnswer name answer).bind fun _ => keeps_reportUnless silent env _
  | .iterate env count body => by
    rw [Step.run]
    refine ((Step.keeps_runAll true body).times count.toNat).bind fun _ => ?_
    exact keeps_reportUnless silent env _

/-- Steps that are run one after another keep the heaps reachable. -/
theorem Step.keeps_runAll (silent : Bool) :
    ∀ steps : List Step, (Step.runAll silent steps).Keeps HeapsReachable
  | [] => by
    rw [Step.runAll]
    exact Keeps.pure _
  | step :: rest => by
    rw [Step.runAll]
    exact (Step.keeps_run silent step).bind fun _ => Step.keeps_runAll silent rest

end

/-- An outermost step keeps the heaps reachable, whether or not it fails. -/
theorem Step.keeps_perform (step : Step) : step.perform.Keeps HeapsReachable := by
  refine (Step.keeps_run false step).attempt.bind fun result => ?_
  split
  · exact Keeps.pure _
  · exact keeps_report step.env _

/-- Throughout a session that starts on reachable heaps, the heaps are reachable: what a session
does to a heap is a run of that heap. -/
theorem keeps_performAll (steps : List Step) : (performAll steps).Keeps HeapsReachable := by
  induction steps with
  | nil => exact Keeps.pure ()
  | cons step rest ih => exact step.keeps_perform.bind fun _ => ih

/-- What holds after every run holds of every heap of a session that starts on fresh heaps. -/
theorem forall_heaps_performAll {Q : Heap → Prop}
    (hQ : ∀ capacity steps, Q (Heap.after (Heap.fresh capacity) steps))
    (capacities : List (Option Nat)) (steps : List Step) :
    ∀ heap ∈ (performAll steps { heaps := capacities.map Heap.fresh }).state.heaps, Q heap := by
  have hfresh : HeapsReachable { heaps := capacities.map Heap.fresh } := by
    intro heap hheap
    obtain ⟨capacity, -, rfl⟩ := List.mem_map.mp hheap
    exact Heap.reachable_fresh capacity
  intro heap hheap
  obtain ⟨capacity, run, rfl⟩ := keeps_performAll steps _ hfresh heap hheap
  exact hQ capacity run

end Session

end DurableRefs
