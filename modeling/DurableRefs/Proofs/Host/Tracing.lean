import DurableRefs.Host
import DurableRefs.Managed
import DurableRefs.Proofs.Action
import Mathlib.Data.List.Forall2

/-!
# What the log traces of handles

The library reports at the level of traces what it does with handles. Here it is said for any host
which of these traces an operation on a handle leaves, typed or by its word, given how it ended: one
for a handle that has been made, one for a handle that is given up, and one for a weak handle whose
referent is gone. The host itself must leave no such traces, and must not go on once it has been
ended.
-/

namespace DurableRefs

open DurableRefs.Action (NotesOnly)

/-! ### Traces -/

/-- Whether an event traces an operation on a reference. -/
def Log.Event.isTrace (e : Log.Event) : Bool :=
  e.record.level = .trace && e.record.target = Log.referenceTarget

/-- An event traces something that was done with a handle, and tells the word of the handle and its
class. -/
structure Log.Event.TracesHandle (e : Log.Event) (h : Handle) : Prop where
  /-- The event is at the level of traces. -/
  level : e.record.level = .trace
  /-- The event has the target of the events about single references. -/
  target : e.record.target = Log.referenceTarget
  /-- One of its fields is the word. -/
  raw : ("raw", .number h.raw.toInt) ∈ e.record.fields
  /-- Another one is the class. -/
  kind : ("kind", .shown h.strength.name) ∈ e.record.fields

/-- Something that is done with a handle. -/
inductive HandleUse where
  /-- The handle has been made. -/
  | created (h : Handle)
  /-- The handle is given up. -/
  | released (h : Handle)
  /-- A local has been made from the handle. -/
  | resolved (h : Handle)
  /-- The handle is weak and its referent is gone. -/
  | foundGone (h : Handle)
  deriving DecidableEq, Repr

/-- The handle with which something is done. -/
def HandleUse.handle : HandleUse → Handle
  | created h => h
  | released h => h
  | resolved h => h
  | foundGone h => h

/-- The traces of something that is done with a handle. -/
def HandleUse.traces : HandleUse → List Log.Event
  | created h => [.created h.raw h.strength]
  | released h => [.releasing h.raw h.strength]
  | resolved _ => []
  | foundGone h => [.referentGone h.raw]

/-- The handle has been made or is given up. -/
def HandleUse.moves : HandleUse → Bool
  | created _ | released _ => true
  | resolved _ | foundGone _ => false

/-- A handle that is made or given up is traced once, with its word and its class. -/
theorem HandleUse.traces_of_moves {u : HandleUse} (hu : u.moves = true) :
    ∃ e, u.traces = [e] ∧ e.TracesHandle u.handle := by
  cases u with
  | created h =>
    refine ⟨.created h.raw h.strength, rfl, ?_⟩
    constructor <;> simp [Log.Event.record, handle]
  | released h =>
    refine ⟨.releasing h.raw h.strength, rfl, ?_⟩
    constructor <;> simp [Log.Event.record, handle]
  | resolved h | foundGone h => cases hu

/-- A referent that is gone is traced without the class of the handle. -/
theorem not_tracesHandle_referentGone (raw : Int64) (h : Handle) :
    ¬ (Log.Event.referentGone raw).TracesHandle h := by
  intro htraces
  have hkind := htraces.kind
  simp [Log.Event.record] at hkind

/-- Nothing that is done with a handle is traced twice. -/
theorem length_flatMap_traces_le (uses : List HandleUse) :
    (uses.flatMap HandleUse.traces).length ≤ uses.length := by
  induction uses with
  | nil => exact Nat.le_refl 0
  | cons u rest ih =>
    have hone : u.traces.length ≤ 1 := by cases u <;> simp [HandleUse.traces]
    rw [List.flatMap_cons, List.length_append, List.length_cons]
    omega

/-- Events tell, one by one and in order, what has been done with handles: each of them the word and
the class of its handle. -/
def Told (events : List Log.Event) (uses : List HandleUse) : Prop :=
  List.Forall₂ (fun e u => e.TracesHandle u.handle) events uses

/-- What has been done with handles is told by its traces exactly if handles have only been made and
given up. -/
theorem told_traces_iff (uses : List HandleUse) :
    Told (uses.flatMap HandleUse.traces) uses ↔ ∀ u ∈ uses, u.moves = true := by
  rw [Told]
  induction uses with
  | nil => simp
  | cons u rest ih =>
    rw [List.flatMap_cons, List.forall_mem_cons]
    constructor
    · intro htold
      cases u with
      | created h | released h =>
        obtain ⟨-, hrest⟩ := List.forall₂_cons.mp htold
        exact ⟨rfl, ih.mp hrest⟩
      | resolved h =>
        -- One trace is missing, and no other use can make up for it.
        have hlength : (rest.flatMap HandleUse.traces).length = rest.length + 1 := htold.length_eq
        have hless := length_flatMap_traces_le rest
        omega
      | foundGone h =>
        obtain ⟨hfirst, -⟩ := List.forall₂_cons.mp htold
        exact absurd hfirst (not_tracesHandle_referentGone h.raw h)
    · rintro ⟨hu, hrest⟩
      obtain ⟨e, htrace, htold⟩ := HandleUse.traces_of_moves hu
      rw [htrace]
      exact List.forall₂_cons.mpr ⟨htold, ih.mpr hrest⟩

/-- The traces of what has been done with handles. -/
structure TracesOf (uses : List HandleUse) (traces : List Log.Event) : Prop where
  /-- There are the traces of each use, in order, and no others. -/
  traces_eq : traces = uses.flatMap HandleUse.traces
  /-- The traces tell every use exactly if handles have only been made and given up. -/
  told_iff : Told traces uses ↔ ∀ u ∈ uses, u.moves = true

/-- Traces that belong to uses tell them as far as such traces do. -/
theorem TracesOf.of_eq {uses : List HandleUse} {traces : List Log.Event}
    (h : traces = uses.flatMap HandleUse.traces) : TracesOf uses traces := by
  refine ⟨h, ?_⟩
  rw [h]
  exact told_traces_iff uses

section Leaves

variable {σ ν ε α β : Type} {view : ν → Option Log.Event}

/-- The traces among notes, some of which are events. -/
def tracesIn (view : ν → Option Log.Event) (notes : List ν) : List Log.Event :=
  (notes.filterMap view).filter Log.Event.isTrace

/-- More notes leave more traces. -/
theorem tracesIn_append (view : ν → Option Log.Event) (first rest : List ν) :
    tracesIn view (first ++ rest) = tracesIn view first ++ tracesIn view rest := by
  rw [tracesIn, List.filterMap_append, List.filter_append]
  rfl

/-- Where every note is an event, the traces are those of the notes that are traces. -/
theorem tracesIn_some (notes : List Log.Event) :
    tracesIn some notes = notes.filter Log.Event.isTrace := by
  rw [tracesIn, List.filterMap_some]

/-- An action leaves no traces, however it ends. -/
def Untraced (view : ν → Option Log.Event) (p : Action σ ν ε α) : Prop :=
  p.NotesOnly fun n => ∀ e ∈ view n, e.isTrace = false

/-- An action that leaves no traces has none among its notes. -/
theorem Untraced.tracesIn_eq {p : Action σ ν ε α} (hp : Untraced view p) (s : σ) :
    tracesIn view (p s).notes = [] := by
  rw [tracesIn, List.filter_eq_nil_iff]
  intro e he
  obtain ⟨n, hn, hview⟩ := List.mem_filterMap.mp he
  have hnone : e.isTrace = false := hp s n hn e hview
  rw [hnone]
  exact Bool.false_ne_true

/-- The traces that an action leaves are those that belong to the way in which it ends. -/
def Leaves (view : ν → Option Log.Event) (R : Except ε α → List Log.Event → Prop)
    (p : Action σ ν ε α) : Prop :=
  ∀ s, R (p s).result (tracesIn view (p s).notes)

/-- What follows an action without traces leaves its own traces. -/
theorem Leaves.bind {R : Except ε β → List Log.Event → Prop} {p : Action σ ν ε α}
    {f : α → Action σ ν ε β} (hp : Untraced view p) (hstopped : ∀ e, R (.error e) [])
    (hf : ∀ a, Leaves view R (f a)) : Leaves view R (p >>= f) := by
  intro s
  have hnone := hp.tracesIn_eq s
  cases hrun : p s with
  | mk result s' notes =>
    rw [hrun] at hnone
    cases result with
    | error e =>
      rw [Action.bind_of_error hrun, hnone]
      exact hstopped e
    | ok a =>
      rw [Action.bind_of_ok hrun, tracesIn_append, hnone]
      exact hf a s'

/-- A value that is put into another form has the same traces. -/
theorem Leaves.bind_pure {R : Except ε β → List Log.Event → Prop} {p : Action σ ν ε α}
    {f : α → β} (hp : Leaves view (fun result => R (result.map f)) p) :
    Leaves view R (p >>= fun a => pure (f a)) := by
  intro s
  rw [Action.bind_pure_apply]
  exact hp s

end Leaves

/-! ### Operations on handles -/

/-- An operation on a handle, or on the word of one. -/
inductive HandleRequest (L : Type) where
  /-- Make a strong handle. -/
  | createStrong (x : L)
  /-- Make a weak handle. -/
  | createWeak (x : L)
  /-- Release a handle. -/
  | release (h : Handle)
  /-- Resolve a strong handle. -/
  | resolve (h : Handle)
  /-- Resolve a weak handle. -/
  | resolveWeak (h : Handle)
  /-- Answer a call from managed code. -/
  | managed (call : ManagedCall L Int64)
  deriving DecidableEq, Repr

namespace HandleRequest

variable {σ ν ε L : Type}

/-- Carry an operation out. -/
def run {m : Type → Type} [Monad m] (host : Host m L) : HandleRequest L → m Unit
  | createStrong x => do
    let _ ← host.createStrong x
    return
  | createWeak x => do
    let _ ← host.createWeak x
    return
  | release h => host.release h
  | resolve h => do
    let _ ← host.resolve h
    return
  | resolveWeak h => do
    let _ ← host.resolveWeak h
    return
  | managed call => do
    let _ ← host.answer call
    return

/-- What has been done with the handle of an operation that makes one. -/
def made? : Except ε (Option Handle) → Option HandleUse
  | .ok (some h) => some (.created h)
  | _ => none

/-- What has been done with a strong handle that was to be resolved. -/
def resolved? (h : Handle) : Except ε L → Option HandleUse
  | .ok _ => some (.resolved h)
  | .error _ => none

/-- What has been done with a weak handle that was to be resolved. -/
def resolvedWeak? (h : Handle) : Except ε (Option L) → Option HandleUse
  | .ok (some _) => some (.resolved h)
  | .ok none => some (.foundGone h)
  | .error _ => none

/-- What has been done with the handle of a word that was to be given up, when the host had been
asked for its class. A class that the host does not know is taken for strong. -/
def released? (raw : Int64) : Except ε (Option Strength) → Option HandleUse
  | .ok known => (Handle.ofRaw? raw (known.getD .strong)).map .released
  | .error _ => none

/-- What a call from managed code does with a handle in a state. The class of the handle is known
from the function that is called, except when the handle is given up. -/
def usedBy? (host : Host (Action σ ν ε) L) (s : σ) : ManagedCall L Int64 → Option HandleUse
  | .newRef x => made? ((host.newRef x s).result.map fun raw => Handle.ofRaw? raw .strong)
  | .newWeakRef x => made? ((host.newWeakRef x s).result.map fun raw => Handle.ofRaw? raw .weak)
  | .unref raw => released? raw (host.classify raw s).result
  | .get raw => do
    let h ← Handle.ofRaw? raw .strong
    resolved? h (host.get raw s).result
  | .getWeak raw => do
    let h ← Handle.ofRaw? raw .weak
    resolvedWeak? h ((host.getWeak raw s).result.map fun x => if host.isNull x then none else some x)

/-- What an operation does with a handle in a state, if it does anything. A handle counts as given
up even if its reference cannot be deleted afterwards. -/
def use? (host : Host (Action σ ν ε) L) (s : σ) : HandleRequest L → Option HandleUse
  | createStrong x => made? (host.createStrong x s).result
  | createWeak x => made? (host.createWeak x s).result
  | release h => some (.released h)
  | resolve h => resolved? h (host.resolve h s).result
  | resolveWeak h => resolvedWeak? h (host.resolveWeak h s).result
  | managed call => usedBy? host s call

/-- The traces of something that is done with a handle; none if nothing is. -/
def tracesOf : Option HandleUse → List Log.Event
  | some u => u.traces
  | none => []

/-- The traces of what is done at most once are those of a list of at most one use. -/
theorem tracesOf_eq (use : Option HandleUse) :
    tracesOf use = use.toList.flatMap HandleUse.traces := by
  cases use with
  | none => rfl
  | some u => rw [tracesOf, Option.toList_some, List.flatMap_singleton]

/-- If the notes of each moment have the traces of what is done in it, so do those of many. -/
theorem tracesIn_flatMap {M : Type} {view : ν → Option Log.Event} {notes : M → List ν}
    {use? : M → Option HandleUse} (hnotes : ∀ m, tracesIn view (notes m) = tracesOf (use? m))
    (moments : List M) :
    tracesIn view (moments.flatMap notes) =
      (moments.filterMap use?).flatMap HandleUse.traces := by
  induction moments with
  | nil => rfl
  | cons m rest ih =>
    rw [List.flatMap_cons, tracesIn_append, hnotes, ih, List.filterMap_cons]
    cases use? m <;> rfl

variable {host : Host (Action σ ν ε) L} {s : σ} {u : HandleUse} {e : ε}

/-- A call from managed code that fails after it has done something with a handle was to give the
handle up. -/
theorem usedBy?_of_error {call : ManagedCall L Int64}
    (hfailed : (host.answer call s).result = .error e) (huse : usedBy? host s call = some u) :
    ∃ h, u = .released h := by
  cases call with
  | newRef x | newWeakRef x =>
    rw [Host.answer, Action.result_bind_pure_eq_error_iff] at hfailed
    rw [usedBy?, hfailed] at huse
    cases huse
  | unref raw =>
    rw [usedBy?] at huse
    cases hclass : (host.classify raw s).result with
    | error e =>
      rw [hclass] at huse
      cases huse
    | ok known =>
      rw [hclass] at huse
      obtain ⟨h, -, hu⟩ := Option.map_eq_some_iff.mp huse
      exact ⟨h, hu.symm⟩
  | get raw | getWeak raw =>
    rw [Host.answer, Action.result_bind_pure_eq_error_iff] at hfailed
    obtain ⟨h, -, hu⟩ := Option.bind_eq_some_iff.mp huse
    rw [hfailed] at hu
    cases hu

/-- An operation that fails after it has done something with a handle was to give the handle up. -/
theorem use?_of_error {request : HandleRequest L} (hfailed : (request.run host s).result = .error e)
    (huse : request.use? host s = some u) : ∃ h, u = .released h := by
  cases request with
  | createStrong x | createWeak x | resolve h | resolveWeak h =>
    rw [run, Action.result_bind_pure_eq_error_iff] at hfailed
    rw [use?, hfailed] at huse
    cases huse
  | release h => exact ⟨h, (Option.some.inj huse).symm⟩
  | managed call =>
    rw [run, Action.result_bind_pure_eq_error_iff] at hfailed
    exact usedBy?_of_error hfailed huse

end HandleRequest

namespace Host

variable {σ ν ε L : Type} {view : ν → Option Log.Event} {host : Host (Action σ ν ε) L}

/-- A host takes a note of every event that is reported to it, leaves no traces of its own, and does
not go on when it has been ended or a handle has been rejected. -/
structure Reports (view : ν → Option Log.Event) (host : Host (Action σ ν ε) L) : Prop where
  /-- An event is noted. -/
  emit (e : Log.Event) : ∃ n, view n = some e ∧ host.emit e = Action.note n
  /-- Null is null. -/
  isNull_null : host.isNull host.null = true
  /-- Making a strong reference is not traced by the host. -/
  newStrong (x : L) : Untraced view (host.newStrong x)
  /-- Making a weak reference is not traced by the host. -/
  newWeak (x : L) : Untraced view (host.newWeak x)
  /-- Deleting a strong reference is not traced by the host. -/
  deleteStrong (raw : Int64) : Untraced view (host.deleteStrong raw)
  /-- Deleting a weak reference is not traced by the host. -/
  deleteWeak (raw : Int64) : Untraced view (host.deleteWeak raw)
  /-- Making a local is not traced by the host. -/
  newLocal (raw : Int64) : Untraced view (host.newLocal raw)
  /-- Classifying a word is not traced by the host. -/
  classify (raw : Int64) : Untraced view (host.classify raw)
  /-- Opening a frame is not traced by the host. -/
  pushFrame (capacity : Int32) : Untraced view (host.pushFrame capacity)
  /-- Closing a frame is not traced by the host. -/
  popFrame (x : L) : Untraced view (host.popFrame x)
  /-- Ending the host is not traced. -/
  fatal {α : Type} (reason : String) : Untraced view (host.fatal reason : Action σ ν ε α)
  /-- A host that has been ended does not go on. -/
  fatal_stops {α : Type} (reason : String) (s : σ) :
    ∃ e, (host.fatal reason s : Run σ ν ε α).result = .error e
  /-- Rejecting a handle is not traced. -/
  reject {α : Type} (m : Misapplied) : Untraced view (host.reject m : Action σ ν ε α)
  /-- Nothing is done with a handle that has been rejected. -/
  reject_stops {α : Type} (m : Misapplied) (s : σ) :
    ∃ e, (host.reject m s : Run σ ν ε α).result = .error e

namespace Reports

open HandleRequest (made? released? resolved? resolvedWeak? usedBy? use? tracesOf)

variable {α β : Type}

/-- An event is reported before what follows, and is a trace or not. -/
theorem leaves_emit (hhost : host.Reports view) (e : Log.Event)
    {R : Except ε β → List Log.Event → Prop} {f : Unit → Action σ ν ε β}
    (hf : Leaves view (fun result rest => R result ([e].filter Log.Event.isTrace ++ rest))
      (f ())) : Leaves view R (host.emit e >>= f) := by
  obtain ⟨n, hview, hemit⟩ := hhost.emit e
  intro s
  have hnote : host.emit e s = ⟨.ok (), s, [n]⟩ := by rw [hemit, Action.note_apply]
  have htrace : tracesIn view [n] = [e].filter Log.Event.isTrace := by simp [tracesIn, hview]
  rw [Action.bind_of_ok hnote, tracesIn_append, htrace]
  exact hf s

/-- How the making of a handle can end, and with what traces. -/
inductive Makes (strength : Strength) : Except ε (Option Handle) → List Log.Event → Prop
  /-- There is a handle. -/
  | made {h : Handle} (hs : h.strength = strength) :
    Makes strength (.ok (some h)) [.created h.raw h.strength]
  /-- There is no object for a handle. -/
  | null : Makes strength (.ok none) []
  /-- The host has failed. -/
  | stopped (e : ε) : Makes strength (.error e) []

/-- A reference is adopted as a handle, or the host ends. -/
theorem leaves_adopt (hhost : host.Reports view) (strength : Strength) (raw : Int64) :
    Leaves view (fun result => Makes strength (result.map some)) (host.adopt strength raw) := by
  unfold Host.adopt
  cases hraw : Handle.ofRaw? raw strength with
  | none =>
    apply hhost.leaves_emit
    intro s
    have hfatal : Untraced view
        (host.fatal HostFailure.tableExhausted.message : Action σ ν ε Handle) := hhost.fatal _
    obtain ⟨e, he⟩ : ∃ e, (host.fatal HostFailure.tableExhausted.message s :
        Run σ ν ε Handle).result = .error e := hhost.fatal_stops _ s
    rw [hfatal.tracesIn_eq s, he]
    exact .stopped e
  | some h =>
    apply hhost.leaves_emit
    intro s
    exact .made (Handle.ofRaw?_eq_some_iff.mp hraw).2

/-- A strong handle is made, or the host ends. -/
theorem leaves_createStrong (hhost : host.Reports view) (x : L) :
    Leaves view (Makes .strong) (host.createStrong x) := by
  unfold Host.createStrong
  split
  · intro s
    exact .null
  · apply Leaves.bind (hhost.newStrong x) Makes.stopped
    intro raw
    exact (hhost.leaves_adopt .strong raw).bind_pure

/-- A weak handle is made, or the host ends. -/
theorem leaves_createWeak (hhost : host.Reports view) (x : L) :
    Leaves view (Makes .weak) (host.createWeak x) := by
  unfold Host.createWeak
  split
  · intro s
    exact .null
  · apply Leaves.bind (hhost.newWeak x) Makes.stopped
    intro raw
    exact (hhost.leaves_adopt .weak raw).bind_pure

/-- An event that is no trace leaves none. -/
theorem untraced_emit (hhost : host.Reports view) {e : Log.Event} (he : e.isTrace = false) :
    Untraced view (host.emit e) := by
  obtain ⟨n, hview, hemit⟩ := hhost.emit e
  rw [hemit]
  apply NotesOnly.note
  intro e' he'
  rw [hview] at he'
  rw [← Option.some.inj he']
  exact he

/-- A handle that is released is traced, whether or not its reference can be deleted. -/
theorem leaves_release (hhost : host.Reports view) (h : Handle) :
    Leaves view (fun _ traces => traces = [.releasing h.raw h.strength]) (host.release h) := by
  obtain ⟨strength, raw, hraw⟩ := h
  cases strength with
  | strong =>
    apply hhost.leaves_emit
    intro s
    dsimp only
    rw [(hhost.deleteStrong raw).tracesIn_eq s]
    rfl
  | weak =>
    apply hhost.leaves_emit
    intro s
    dsimp only
    rw [(hhost.deleteWeak raw).tracesIn_eq s]
    rfl

/-- A strong handle that is resolved is not traced. -/
theorem untraced_resolve (hhost : host.Reports view) (h : Handle) :
    Untraced view (host.resolve h) := by
  unfold Host.resolve
  split
  · exact hhost.reject _
  · apply NotesOnly.bind (hhost.newLocal h.raw)
    intro x
    split
    · exact (hhost.untraced_emit rfl).bind fun _ => hhost.fatal _
    · exact NotesOnly.pure x

/-- A frame that is opened is not traced. -/
theorem untraced_openFrame (hhost : host.Reports view) (capacity : Int32) :
    Untraced view (host.openFrame capacity) := by
  apply NotesOnly.bind (hhost.pushFrame capacity)
  intro opened
  split
  · exact NotesOnly.pure ()
  · exact (hhost.untraced_emit rfl).bind fun _ => hhost.fatal _

/-- How the resolution of a weak handle can end, and with what traces. -/
inductive Looks (host : Host (Action σ ν ε) L) (h : Handle) :
    Except ε (Option L) → List Log.Event → Prop
  /-- There is a local. -/
  | found {x : L} (hx : host.isNull x = false) : Looks host h (.ok (some x)) []
  /-- The referent is gone. -/
  | gone : Looks host h (.ok none) [.referentGone h.raw]
  /-- The host has failed. -/
  | stopped (e : ε) : Looks host h (.error e) []

/-- A weak handle that is resolved is traced if its referent is gone. -/
theorem leaves_resolveWeak (hhost : host.Reports view) (h : Handle) :
    Leaves view (Looks host h) (host.resolveWeak h) := by
  unfold Host.resolveWeak
  split
  · intro s
    have hreject : Untraced view
        (host.reject (.resolveWeak h) : Action σ ν ε (Option L)) := hhost.reject _
    obtain ⟨e, he⟩ : ∃ e, (host.reject (.resolveWeak h) s :
        Run σ ν ε (Option L)).result = .error e := hhost.reject_stops _ s
    rw [hreject.tracesIn_eq s, he]
    exact .stopped e
  · apply Leaves.bind (hhost.newLocal h.raw) Looks.stopped
    intro x
    cases hx : host.isNull x with
    | true =>
      apply hhost.leaves_emit
      intro s
      exact .gone
    | false =>
      intro s
      exact .found hx

/-! ### What an operation traces -/

/-- The traces of an operation belong to what it does with its handle, also when its value is put
into another form. -/
theorem traces_of_makes {strength : Strength} {result : Except ε (Option Handle)}
    {traces : List Log.Event} (h : Makes strength result traces) :
    traces = tracesOf (made? result) ∧
      traces = tracesOf (made? ((result.map Handle.toWord).map fun raw =>
        Handle.ofRaw? raw strength)) := by
  cases h with
  | @made h hs =>
    refine ⟨rfl, ?_⟩
    subst hs
    simp only [Except.map, Handle.toWord, Handle.ofRaw?_raw]
    rfl
  | null => exact ⟨rfl, rfl⟩
  | stopped e => exact ⟨rfl, rfl⟩

/-- A word that is given up is traced as a handle of the class that the host names, or as a strong
one. If the host cannot even be asked, nothing is traced. -/
theorem tracesIn_unref (hhost : host.Reports view) (raw : Int64) (s : σ) :
    tracesIn view (host.unref raw s).notes =
      tracesOf (released? raw (host.classify raw s).result) := by
  by_cases hraw : raw = 0
  · have hunref : host.unref raw s = ⟨.ok (), s, []⟩ := by simp [Host.unref, hraw]
    rw [hunref, hraw]
    cases (host.classify 0 s).result <;> rfl
  · have hclassify := (hhost.classify raw).tracesIn_eq s
    rw [Host.unref, if_neg hraw]
    cases hrun : host.classify raw s with
    | mk result s' notes =>
      rw [hrun] at hclassify
      cases result with
      | error e =>
        rw [Action.bind_of_error hrun, hclassify]
        rfl
      | ok known =>
        rw [Action.bind_of_ok hrun, tracesIn_append, hclassify, List.nil_append, released?,
          Handle.ofRaw?_of_ne_zero hraw]
        cases known with
        | some strength =>
          simp only [pure_bind, Handle.ofRaw?_of_ne_zero hraw]
          exact hhost.leaves_release ⟨strength, raw, hraw⟩ s'
        | none =>
          simp only [pure_bind, Handle.ofRaw?_of_ne_zero hraw]
          have hrelease : Leaves view (fun _ traces => traces = [.releasing raw .strong])
              (host.emit (.unrecognised raw) >>= fun _ => host.release ⟨.strong, raw, hraw⟩) :=
            hhost.leaves_emit _ (hhost.leaves_release ⟨.strong, raw, hraw⟩)
          exact hrelease s'

/-- A call from managed code traces what it does with its handle. -/
theorem tracesIn_answer (hhost : host.Reports view) (call : ManagedCall L Int64) (s : σ) :
    tracesIn view (host.answer call s).notes = tracesOf (usedBy? host s call) := by
  cases call with
  | newRef x =>
    have hmakes := traces_of_makes (hhost.leaves_createStrong x s)
    simp only [Host.answer, Host.newRef, usedBy?, Action.bind_pure_apply]
    exact hmakes.2
  | newWeakRef x =>
    have hmakes := traces_of_makes (hhost.leaves_createWeak x s)
    simp only [Host.answer, Host.newWeakRef, usedBy?, Action.bind_pure_apply]
    exact hmakes.2
  | unref raw =>
    simp only [Host.answer, Action.bind_pure_apply]
    exact hhost.tracesIn_unref raw s
  | get raw =>
    simp only [Host.answer, usedBy?, Action.bind_pure_apply, Host.get]
    cases Handle.ofRaw? raw .strong with
    | none => rfl
    | some h =>
      rw [(hhost.untraced_resolve h).tracesIn_eq s]
      cases (host.resolve h s).result <;> rfl
  | getWeak raw =>
    simp only [Host.answer, usedBy?, Action.bind_pure_apply, Host.getWeak]
    cases Handle.ofRaw? raw .weak with
    | none => rfl
    | some h =>
      have hlooks := hhost.leaves_resolveWeak h s
      simp only [Action.bind_pure_apply]
      generalize (host.resolveWeak h s).result = result at hlooks ⊢
      generalize tracesIn view (host.resolveWeak h s).notes = traces at hlooks ⊢
      cases hlooks with
      | found hx => simp [Except.map, hx, resolvedWeak?, tracesOf, HandleUse.traces]
      | gone => simp [Except.map, hhost.isNull_null, resolvedWeak?, tracesOf, HandleUse.traces]
      | stopped e => rfl

/-- An operation traces what it does with its handle. -/
theorem tracesIn_run (hhost : host.Reports view) (request : HandleRequest L) (s : σ) :
    tracesIn view (request.run host s).notes = tracesOf (request.use? host s) := by
  cases request with
  | createStrong x =>
    rw [HandleRequest.run, Action.bind_pure_apply]
    exact (traces_of_makes (hhost.leaves_createStrong x s)).1
  | createWeak x =>
    rw [HandleRequest.run, Action.bind_pure_apply]
    exact (traces_of_makes (hhost.leaves_createWeak x s)).1
  | release h => exact hhost.leaves_release h s
  | resolve h =>
    rw [HandleRequest.run, Action.bind_pure_apply, use?, (hhost.untraced_resolve h).tracesIn_eq s]
    cases (host.resolve h s).result <;> rfl
  | resolveWeak h =>
    have hlooks := hhost.leaves_resolveWeak h s
    rw [HandleRequest.run, Action.bind_pure_apply, use?]
    generalize (host.resolveWeak h s).result = result at hlooks ⊢
    dsimp only
    generalize tracesIn view (host.resolveWeak h s).notes = traces at hlooks ⊢
    cases hlooks <;> rfl
  | managed call =>
    rw [HandleRequest.run, Action.bind_pure_apply]
    exact hhost.tracesIn_answer call s

end Reports

end Host

end DurableRefs
