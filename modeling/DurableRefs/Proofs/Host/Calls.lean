import DurableRefs.Proofs.Heap.Numbering
import DurableRefs.Proofs.Host.Replay

/-!
# Replaying the calls of a run

Managed code calls the library in an environment of a heap. The same calls on a function table that
answers as the heap did are replayed one by one, up to the first that ends the host: that one ends
the table.
-/

namespace DurableRefs

variable {pending : FunctionTable.Entry → List Int64}

open FunctionTable (Item Entry Stop answers)
open Heap (recorder toWord)

/-! ### One call -/

/-- The call with words for its locals. -/
def ManagedCall.inTable : ManagedCall Heap.Local Int64 → ManagedCall Int64 Int64
  | .newRef x => .newRef (toWord x)
  | .newWeakRef x => .newWeakRef (toWord x)
  | .unref raw => .unref raw
  | .get raw => .get raw
  | .getWeak raw => .getWeak raw

/-- The answer with the word for its local. -/
def ManagedAnswer.inTable : ManagedAnswer Heap.Local → ManagedAnswer Int64
  | .done => .done
  | .word raw => .word raw
  | .object x => .object (toWord x)

/-- An answer that matches is the answer with the word for its local. -/
theorem ManagedAnswer.Matches.eq_inTable {a : ManagedAnswer Heap.Local}
    {b : ManagedAnswer Int64} (hab : a.Matches SameObject b) : b = a.inTable := by
  cases hab with
  | done => rfl
  | word raw => rfl
  | object hxy => exact congrArg ManagedAnswer.object hxy.2

/-- A call from managed code with the heap that it finds. -/
structure Heap.CallMoment where
  /-- The heap before the call. -/
  heap : Heap
  /-- The call. -/
  call : ManagedCall Heap.Local Int64

namespace Heap.CallMoment

variable {env : EnvId} {c : CallMoment} {calls : List CallMoment} {table : FunctionTable}

/-- What the call leaves behind in an environment of the heap. -/
def outcome (env : EnvId) (c : CallMoment) : Run Heap Log.Event Fault (ManagedAnswer Local) :=
  (host env).answer c.call c.heap

/-- What is noted of the call in a recorder. -/
def recorded (env : EnvId) (c : CallMoment) : List Item :=
  ((recorder env).answer c.call c.heap).notes

/-- Whether the call ends the host. -/
def endsHost (env : EnvId) (c : CallMoment) : Bool :=
  match (c.outcome env).result with
  | .error (.fatal _) => true
  | _ => false

/-- Whether the call is misused. -/
def isMisused (env : EnvId) (c : CallMoment) : Bool :=
  match (c.outcome env).result with
  | .error (.misuse _) => true
  | _ => false

/-- The call as a step of a program on a function table. -/
def toStep (c : CallMoment) : FunctionTable.Step := .call (.managed .globalRef c.call.inTable)

/-- The end of a replay: the value that is returned or the call that ends the host. -/
def closing (c : CallMoment) : Except Fault (ManagedAnswer Local) → List Item
  | .ok a =>
    [.returned (FunctionTable.Call.managed .globalRef c.call.inTable).name
      (.ofManaged a.inTable)]
  | .error (.fatal reason) => [.call .fatalError (.text reason) none]
  | .error _ => []

/-- What a replay of the call notes: the calls of functions and the events of the library, and the
end. -/
def replay (env : EnvId) (c : CallMoment) : List Item :=
  (c.recorded env).filter Item.isOwn ++ c.closing (c.outcome env).result

/-- The end of a replay reports nothing. -/
theorem events_closing (c : CallMoment) (result : Except Fault (ManagedAnswer Local)) :
    FunctionTable.events (c.closing result) = [] := by
  rcases result with (_ | _ | _) | _ <;> rfl

/-- A replay reports the events of the library that the call reports, and no others. -/
theorem events_replay (env : EnvId) (c : CallMoment) :
    FunctionTable.events (c.replay env) = (c.outcome env).notes.filter Log.Event.isOwn := by
  rw [replay, events_append, events_closing, List.append_nil, FunctionTable.events_filter_isOwn,
    outcome, answer_recorder]
  rfl

/-- A replay ends the host for a reason exactly when the call does. -/
theorem mem_replay_fatalError_iff {reason : String} :
    .call .fatalError (.text reason) none ∈ c.replay env ↔
      (c.outcome env).result = .error (.fatal reason) := by
  have hrecorded : Item.call .fatalError (.text reason) none ∉ c.recorded env :=
    fun hitem => absurd (endsHost_of_mem_answer hitem) (by simp [Item.endsHost])
  rw [replay, List.mem_append, List.mem_filter]
  cases (c.outcome env).result with
  | ok a => simp [hrecorded, closing]
  | error fault =>
    cases fault with
    | fatal r => simp [hrecorded, closing, @eq_comm _ reason r]
    | _ => simp [hrecorded, closing]

/-- A call that is not misused does not stop for a misuse. -/
theorem result_ne_misuse (hvalid : c.isMisused env = false) (m : Misuse) :
    (c.outcome env).result ≠ .error (.misuse m) := by
  intro hresult
  simp [isMisused, hresult] at hvalid

/-- A call that is not misused has words that stand for its locals. -/
theorem matches_inTable (hzero : c.heap.isLive 0 = false) (hvalid : c.isMisused env = false) :
    c.call.Matches SameObject c.call.inTable := by
  have hmisuse := result_ne_misuse hvalid
  obtain ⟨heap, call⟩ := c
  have hmade : ∀ strength, (makeHandle env strength (some 0) heap).result =
      .error (.misuse (.danglingLocal 0)) := fun _ => by rw [makeHandle_of_freed hzero]
  cases call with
  | newRef x =>
    refine .newRef ⟨?_, rfl⟩
    rintro rfl
    refine hmisuse (.danglingLocal 0) (Action.result_bind_pure_eq_error_iff.mpr ?_)
    exact Action.result_bind_pure_eq_error_iff.mpr (hmade .strong)
  | newWeakRef x =>
    refine .newWeakRef ⟨?_, rfl⟩
    rintro rfl
    refine hmisuse (.danglingLocal 0) (Action.result_bind_pure_eq_error_iff.mpr ?_)
    exact Action.result_bind_pure_eq_error_iff.mpr (hmade .weak)
  | unref raw => exact .unref raw
  | get raw => exact .get raw
  | getWeak raw => exact .getWeak raw

/-- On a table with the recorded answers, a call that is not misused ends the host or returns as it
does on the heap, and takes just these answers. -/
theorem run_toStep (hzero : c.heap.isLive 0 = false) (hvalid : c.isMisused env = false)
    (hscript : table.Scripted fun e => answers e (c.recorded env) ++ pending e) :
    ∃ later, later.Scripted pending ∧
      (c.endsHost env = true ∧ c.toStep.run table = ⟨.error .ended, later, c.replay env⟩ ∨
        c.endsHost env = false ∧ ∃ v, c.toStep.run table = ⟨.ok v, later, c.replay env⟩) := by
  have hcall := matches_inTable hzero hvalid
  have hreplayed := (agree_functionTable env).answer hcall c.heap table pending hzero hscript
  have houtcome : (c.outcome env).result = ((recorder env).answer c.call c.heap).result := by
    rw [outcome, answer_recorder]
  generalize hfirst : (recorder env).answer c.call c.heap = first at hreplayed houtcome
  generalize hsecond : FunctionTable.host.answer c.call.inTable table = second at hreplayed
  cases hreplayed with
  | @returned a b _ later notes hab _ hleft =>
    refine ⟨later, hleft, .inr ⟨by simp [endsHost, houtcome], .ofManaged b, ?_⟩⟩
    simp [toStep, FunctionTable.Step.run, FunctionTable.returning, FunctionTable.Call.run, hsecond,
      replay, closing, recorded, hfirst, houtcome, hab.eq_inTable]
  | @ended reason _ later notes hleft =>
    refine ⟨later, hleft, .inl ⟨by simp [endsHost, houtcome], ?_⟩⟩
    simp [toStep, FunctionTable.Step.run, FunctionTable.returning, FunctionTable.Call.run, hsecond,
      replay, closing, recorded, hfirst, houtcome]
  | misused => exact absurd houtcome (result_ne_misuse hvalid _)

/-! ### The calls of a run -/

/-- The calls of a list up to the first one that ends the host, and that one. -/
def untilEnd (env : EnvId) : List CallMoment → List CallMoment
  | [] => []
  | c :: rest => c :: if c.endsHost env then [] else untilEnd env rest

/-- Calls that are not misused are replayed one after another up to the first that ends the host,
and take just the recorded answers. -/
theorem performAll_untilEnd (hzero : ∀ c ∈ calls, c.heap.isLive 0 = false)
    (hvalid : ∀ c ∈ untilEnd env calls, c.isMisused env = false)
    (hscript : table.Scripted fun e =>
      answers e ((untilEnd env calls).flatMap (recorded env)) ++ pending e) :
    ∃ later, later.Scripted pending ∧
      FunctionTable.performAll ((untilEnd env calls).map toStep) table =
        ⟨if (untilEnd env calls).any (endsHost env) then .error .ended else .ok (), later,
          (untilEnd env calls).flatMap (replay env)⟩ := by
  induction calls generalizing table with
  | nil => exact ⟨table, hscript, rfl⟩
  | cons c rest ih =>
    have hfirst := hvalid c (by simp [untilEnd])
    simp only [untilEnd, List.flatMap_cons, FunctionTable.answers_append, List.append_assoc]
      at hscript
    obtain ⟨middle, hmiddle, ⟨hends, hrun⟩ | ⟨hends, v, hrun⟩⟩ :=
      run_toStep (hzero c List.mem_cons_self) hfirst hscript
    · refine ⟨middle, ?_, ?_⟩
      · simpa [hends, answers] using hmiddle
      · simp [untilEnd, hends, FunctionTable.performAll, hrun, Stop.isFinal]
    · simp only [hends, Bool.false_eq_true, if_false] at hmiddle
      obtain ⟨later, hlater, hrest⟩ := ih (fun d hd => hzero d (List.mem_cons_of_mem c hd))
        (fun d hd => hvalid d (by simp [untilEnd, hends, hd])) hmiddle
      refine ⟨later, hlater, ?_⟩
      simp [untilEnd, hends, FunctionTable.performAll, hrun, hrest]

end Heap.CallMoment

namespace Heap

variable {env : EnvId} {capacity : Option Nat} {steps : List Step}

/-- The call that a step of an environment answers for managed code, with the heap it finds. -/
def Moment.call? (env : EnvId) (m : Moment) : Option CallMoment :=
  match m.step with
  | .operate e (.managed call) => if e = env then some ⟨m.heap, call⟩ else none
  | _ => none

/-- The calls that an environment answers for managed code in a run, up to the first that ends the
host. -/
def callsUntilEnd (capacity : Option Nat) (steps : List Step) (env : EnvId) : List CallMoment :=
  CallMoment.untilEnd env ((history (fresh capacity) steps).filterMap (Moment.call? env))

/-- As long as the numbers last, no call finds an object zero. -/
theorem isLive_zero_of_mem_calls
    (hnumbers : (allocated (history (fresh capacity) steps)).length < 2 ^ 32) {c : CallMoment}
    (hc : c ∈ (history (fresh capacity) steps).filterMap (Moment.call? env)) :
    c.heap.isLive 0 = false := by
  obtain ⟨m, hm, hcall⟩ := List.mem_filterMap.mp hc
  obtain ⟨before, later, hsteps, hheap⟩ := mem_history_iff.mp hm
  have hc : c.heap = m.heap := by
    unfold Moment.call? at hcall
    split at hcall
    · split at hcall
      · cases hcall
        rfl
      · cases hcall
    · cases hcall
  rw [hc, hheap]
  refine isLive_zero_eq_false (Nat.lt_of_le_of_lt ?_ hnumbers)
  rw [hsteps]
  exact length_allocated_le_append _ before _

end Heap

open Heap in
/-- Take the calls that an environment answers for managed code in a run, up to the first that ends
the host, and a function table whose script begins with the answers that the heap gave in them.
As long as the numbers of objects last, and if no call was misused, the same calls on the table
note, call by call, the same calls of functions and the same events of the library, and return the
same values. The table is ended exactly when the heap was, for the same reason, and is left with
just the words that came after the answers. -/
theorem FunctionTable.replay_agrees_with_heap (capacity : Option Nat) (steps : List Heap.Step)
    (env : EnvId) (table : FunctionTable) (pending : Entry → List Int64)
    (hnumbers : (allocated (history (fresh capacity) steps)).length < 2 ^ 32)
    (hvalid : ∀ c ∈ callsUntilEnd capacity steps env, c.isMisused env = false)
    (hscript : table.Scripted fun e =>
      answers e ((callsUntilEnd capacity steps env).flatMap (CallMoment.recorded env)) ++
        pending e) :
    (∃ left, left.Scripted pending ∧
      performAll ((callsUntilEnd capacity steps env).map CallMoment.toStep) table =
        ⟨if (callsUntilEnd capacity steps env).any (CallMoment.endsHost env) then .error .ended
          else .ok (), left,
          (callsUntilEnd capacity steps env).flatMap (CallMoment.replay env)⟩) ∧
    ∀ c ∈ callsUntilEnd capacity steps env,
      c.outcome env =
        ⟨((recorder env).answer c.call c.heap).result, ((recorder env).answer c.call c.heap).state,
          events (c.recorded env)⟩ ∧
      events (c.replay env) = (c.outcome env).notes.filter Log.Event.isOwn ∧
      ∀ reason, .call .fatalError (.text reason) none ∈ c.replay env ↔
        (c.outcome env).result = .error (.fatal reason) := by
  refine ⟨?_, fun c _ => ⟨answer_recorder env c.call c.heap, CallMoment.events_replay env c,
    fun _ => CallMoment.mem_replay_fatalError_iff⟩⟩
  exact CallMoment.performAll_untilEnd (fun c hc => isLive_zero_of_mem_calls hnumbers hc) hvalid
    hscript

open Heap in
/-- On a heap with room for one reference, a weak handle is made and its referent collected; then it
is resolved to nothing, and a strong handle to another object ends the host. A table that answers
as the heap did is ended by the same calls, and one word is left in its script. -/
theorem FunctionTable.replay_of_exhausted_heap :
    (allocated (history (fresh (some 1))
      [.attach, .operate 1 (.alloc "a"), .operate 1 (.managed (.newWeakRef (some 1))),
        .operate 1 (.deleteLocal (some 1)), .collect, .operate 1 (.managed (.getWeak 1)),
        .operate 1 (.alloc "b"), .operate 1 (.managed (.newRef (some 2)))])).length < 2 ^ 32 ∧
    (∀ c ∈ callsUntilEnd (some 1)
      [.attach, .operate 1 (.alloc "a"), .operate 1 (.managed (.newWeakRef (some 1))),
        .operate 1 (.deleteLocal (some 1)), .collect, .operate 1 (.managed (.getWeak 1)),
        .operate 1 (.alloc "b"), .operate 1 (.managed (.newRef (some 2)))] 1,
      c.isMisused 1 = false) ∧
    ∃ left : FunctionTable,
      left.Scripted (fun e => if e = .newLocalRef then [7] else []) ∧
      performAll
        [.call (.managed .globalRef (.newWeakRef 1)), .call (.managed .globalRef (.getWeak 1)),
          .call (.managed .globalRef (.newRef 2))]
        { script := ((({} : Table Entry (List Int64)).insert .newWeakGlobalRef [1]).insert
            .newLocalRef [0, 7]).insert .newGlobalRef [0] } =
        ⟨.error .ended, left,
          [.call .newWeakGlobalRef (.word 1) (some 1), .event (.created 1 .weak),
            .returned "GlobalRef.newweakref" (.word 1),
            .call .newLocalRef (.word 1) (some 0), .event (.referentGone 1),
            .returned "GlobalRef.getweak" (.word 0),
            .call .newGlobalRef (.word 2) (some 0), .event (.exhausted .strong),
            .call .fatalError (.text HostFailure.tableExhausted.message) none]⟩ := by
  refine ⟨by decide, by decide, ?_⟩
  obtain ⟨⟨left, hleft, hrun⟩, -⟩ := replay_agrees_with_heap (some 1)
    [.attach, .operate 1 (.alloc "a"), .operate 1 (.managed (.newWeakRef (some 1))),
      .operate 1 (.deleteLocal (some 1)), .collect, .operate 1 (.managed (.getWeak 1)),
      .operate 1 (.alloc "b"), .operate 1 (.managed (.newRef (some 2)))] 1
    { script := ((({} : Table Entry (List Int64)).insert .newWeakGlobalRef [1]).insert
        .newLocalRef [0, 7]).insert .newGlobalRef [0] }
    (fun e => if e = .newLocalRef then [7] else []) (by decide) (by decide)
    ⟨rfl, fun e => by cases e <;> decide⟩
  exact ⟨left, hleft, hrun⟩

end DurableRefs
