import DurableRefs.Proofs.FunctionTable.History

/-!
# Frames are well nested

The calls that open and close frames, read off a transcript, keep a stack of open frames. A program
that leaves its frames to its steps never closes a frame that is not open, and closes every frame
that it opens, however a body ends. Only the end of the host leaves frames open, and these are the
frames of the steps around the last deed.
-/

namespace DurableRefs.FunctionTable

variable {α β : Type}

/-! ### Open frames -/

/-- The frames that are open after an item, given by their room with the innermost first. There are
none if the item closes a frame and none is open. -/
def Item.track (frames : List Int32) : Item → Option (List Int32)
  | .call .pushLocalFrame (.capacity capacity) (some status) =>
    if status.toInt32 = 0 then some (capacity :: frames) else some frames
  | .call .popLocalFrame _ _ => frames.tail?
  | _ => some frames

/-- The frames that are open after a transcript, if every frame that is closed in it is open. -/
def openFrames (items : List Item) : Option (List Int32) := items.foldlM Item.track []

/-- A plain item opens and closes nothing. -/
theorem Item.track_of_isPlain {item : Item} (hplain : item.isPlain = true) (frames : List Int32) :
    item.track frames = some frames := by
  cases item with
  | call entry argument answer => cases entry <;> first | rfl | cases hplain
  | event e | returned step value | failed stop => rfl

/-- Plain items, however many, open and close nothing. -/
theorem foldlM_track_of_isPlain {items : List Item} (hplain : ∀ item ∈ items, item.isPlain = true)
    (frames : List Int32) : items.foldlM Item.track frames = some frames := by
  induction items with
  | nil => rfl
  | cons item rest ih =>
    have hrest := ih fun i hi => hplain i (List.mem_cons_of_mem item hi)
    rw [List.foldlM_cons, Item.track_of_isPlain (hplain item List.mem_cons_self)]
    exact hrest

/-- An action that ends plainly opens and closes nothing. -/
theorem EndsPlainly.foldlM_track {P : α → Prop} {run : Run FunctionTable Item Stop α}
    (hends : EndsPlainly P run) (frames : List Int32) :
    run.notes.foldlM Item.track frames = some frames := by
  cases hends with
  | returned _ _ hnotes | refused _ _ hnotes => exact foldlM_track_of_isPlain hnotes frames
  | ended _ hnotes =>
    rw [List.foldlM_append, foldlM_track_of_isPlain hnotes]
    rfl

/-! ### Nested histories -/

/-- A history that starts inside some frames is nested if every deed finds just the frames of the
steps around it open. The frames at the end are told last. -/
inductive Nests : List Int32 → List Moment → List Int32 → Prop
  /-- Nothing has been done. -/
  | nil {frames : List Int32} : Nests frames [] frames
  /-- A call changes no frames. -/
  | call {table : FunctionTable} {c : Call} {ms : List Moment} {frames last : List Int32}
      (hrest : Nests frames ms last) : Nests frames (⟨table, frames, .call c⟩ :: ms) last
  /-- A frame has been opened. -/
  | opened {table : FunctionTable} {capacity : Int32} {ms : List Moment} {frames last : List Int32}
      (hopen : (table.upcoming .pushLocalFrame).toInt32 = 0)
      (hrest : Nests (capacity :: frames) ms last) :
      Nests frames (⟨table, frames, .openFrame capacity⟩ :: ms) last
  /-- The host has opened no frame. -/
  | refused {table : FunctionTable} {capacity : Int32} {ms : List Moment} {frames last : List Int32}
      (hopen : (table.upcoming .pushLocalFrame).toInt32 ≠ 0) (hrest : Nests frames ms last) :
      Nests frames (⟨table, frames, .openFrame capacity⟩ :: ms) last
  /-- The innermost frame has been closed. -/
  | closed {table : FunctionTable} {capacity : Int32} {x : Int64} {ms : List Moment}
      {frames last : List Int32} (hrest : Nests frames ms last) :
      Nests (capacity :: frames) (⟨table, capacity :: frames, .closeFrame x⟩ :: ms) last

/-- Nested histories follow one another. -/
theorem Nests.append {ms ns : List Moment} {frames middle last : List Int32}
    (hfirst : Nests frames ms middle) (hsecond : Nests middle ns last) :
    Nests frames (ms ++ ns) last := by
  induction hfirst with
  | nil => exact hsecond
  | call _ ih => exact .call (ih hsecond)
  | opened hopen _ ih => exact .opened hopen (ih hsecond)
  | refused hopen _ ih => exact .refused hopen (ih hsecond)
  | closed _ ih => exact .closed (ih hsecond)

/-- The frames that are open after a transcript are those at the end of a nested history that it
tells. -/
theorem Nests.foldlM_track {ms : List Moment} {items : List Item} {frames last : List Int32}
    (hnests : Nests frames ms last) (htells : Tells ms items)
    (hms : ∀ m ∈ ms, m.IsOf fun c => c.isFrameCall = false) :
    items.foldlM Item.track frames = some last := by
  induction htells generalizing frames with
  | nil =>
    cases hnests
    rfl
  | returned step value _ ih | failed stop _ ih => exact ih hnests hms
  | @deed m ms items _ ih =>
    have hm := hms m List.mem_cons_self
    have hrest : ∀ {later}, Nests later ms last → items.foldlM Item.track later = some last :=
      fun hnests => ih hnests fun n hn => hms n (List.mem_cons_of_mem m hn)
    rw [List.foldlM_append]
    cases hnests with
    | @call table c _ _ _ hnests =>
      have hends := Call.plainly_run (hm.call rfl) table hm.missing
      have hcall : ((c.run table).notes).foldlM Item.track frames = some frames :=
        hends.foldlM_track frames
      simp only [Moment.outcome, Deed.run, hcall]
      exact hrest hnests
    | @opened table capacity _ _ _ hopen hnests =>
      simp only [Moment.outcome, Deed.run, Action.bind_pure_apply,
        openFrame_of_opened hm.missing hopen]
      simpa [Item.track, hopen] using hrest hnests
    | @refused table capacity _ _ _ hopen hnests =>
      simp only [Moment.outcome, Deed.run, Action.bind_pure_apply,
        openFrame_of_refused hm.missing hopen]
      simpa [Item.track, hopen, lastCall] using hrest hnests
    | @closed table capacity x _ _ _ hnests =>
      simp only [Moment.outcome, Deed.run, Action.bind_pure_apply, closeFrameWith_eq hm.missing]
      simpa [Item.track] using hrest hnests

/-- A deed after which nothing runs leaves the frames of the steps around it open. -/
theorem Nests.last_eq {ms : List Moment} {m : Moment} {frames last : List Int32}
    (hnests : Nests frames (ms ++ [m]) last) (hm : m.IsOf fun c => c.isFrameCall = false)
    (hlast : m.isLast = true) : last = m.enclosing := by
  induction ms generalizing frames with
  | nil =>
    have hreturns : ∀ value, m.outcome.result ≠ .ok value := by
      intro value hresult
      rw [Moment.isLast, hresult] at hlast
      cases hlast
    rw [List.nil_append] at hnests
    cases hnests with
    | call hrest =>
      cases hrest
      rfl
    | refused _ hrest =>
      cases hrest
      rfl
    | opened hopen hrest =>
      refine absurd ?_ (hreturns .nothing)
      simp only [Moment.outcome, Deed.run, Action.bind_pure_apply,
        openFrame_of_opened hm.missing hopen]
      rfl
    | @closed table capacity x _ _ _ hrest =>
      refine absurd ?_ (hreturns (.word (table.upcoming .popLocalFrame)))
      simp only [Moment.outcome, Deed.run, Action.bind_pure_apply, closeFrameWith_eq hm.missing]
      rfl
  | cons n ms ih =>
    cases hnests with
    | call hrest | opened _ hrest | refused _ hrest | closed hrest => exact ih hrest

/-! ### Programs have nested histories -/

/-- How a run that takes a history ends if the history is nested: with some frames open if it
returned and with some if it was refused. All functions are still there. -/
inductive Led (start returned refused : List Int32) : Run FunctionTable Moment Stop α → Prop
  /-- The run returns. -/
  | returned {a : α} {later : FunctionTable} {ms : List Moment} (hmissing : later.missing = [])
      (hnests : Nests start ms returned) : Led start returned refused ⟨.ok a, later, ms⟩
  /-- The run is refused. -/
  | refused {stop : Stop} {later : FunctionTable} {ms : List Moment} (hstop : stop.isFinal = false)
      (hmissing : later.missing = []) (hnests : Nests start ms refused) :
      Led start returned refused ⟨.error stop, later, ms⟩
  /-- The run ends for good, wherever that may be. -/
  | final {stop : Stop} {later : FunctionTable} {ms : List Moment} {last : List Int32}
      (hstop : stop.isFinal = true) (hnests : Nests start ms last) :
      Led start returned refused ⟨.error stop, later, ms⟩

/-- On a table that has all functions an action takes nested histories that start inside some
frames, and end inside others if it returns and inside yet others if it is refused. -/
def Leads (start returned refused : List Int32) (p : Watch α) : Prop :=
  ∀ table, table.missing = [] → Led start returned refused (p table)

variable {start middle returned refused last : List Int32}

/-- A run that has not ended for good has come to where it should. -/
theorem Led.of_result {run : Run FunctionTable Moment Stop α} (hled : Led start last last run)
    (hresult : ∀ stop, run.result = .error stop → stop.isFinal = false) :
    Nests start run.notes last := by
  cases hled with
  | returned _ hnests | refused _ _ hnests => exact hnests
  | final hstop _ =>
    rw [hresult _ rfl] at hstop
    cases hstop

/-- The history of a run is nested, even if the run has ended for good. -/
theorem Led.exists_nests {run : Run FunctionTable Moment Stop α}
    (hled : Led start returned refused run) : ∃ last, Nests start run.notes last := by
  cases hled with
  | returned _ hnests | refused _ _ hnests | final _ hnests => exact ⟨_, hnests⟩

/-- Returning leads nowhere else. -/
theorem Leads.pure (a : α) : Leads start start refused (Pure.pure a) :=
  fun _ hmissing => .returned hmissing .nil

/-- Being refused leads nowhere else. -/
theorem Leads.stop {stop : Stop} (hstop : stop.isFinal = false) :
    Leads start returned start (Action.stop stop : Watch α) :=
  fun _ hmissing => .refused hstop hmissing .nil

/-- A nested history goes on where it has come to. -/
theorem Led.after {run : Run FunctionTable Moment Stop α} {ms : List Moment}
    (hfirst : Nests start ms middle) (hrest : Led middle returned refused run) :
    Led start returned refused ⟨run.result, run.state, ms ++ run.notes⟩ := by
  cases hrest with
  | returned hmissing hnests => exact .returned hmissing (hfirst.append hnests)
  | refused hstop hmissing hnests => exact .refused hstop hmissing (hfirst.append hnests)
  | final hstop hnests => exact .final hstop (hfirst.append hnests)

/-- Going on leads from where the first part has come to. -/
theorem Leads.bind {p : Watch α} {f : α → Watch β} (hp : Leads start middle refused p)
    (hf : ∀ a, Leads middle returned refused (f a)) : Leads start returned refused (p >>= f) := by
  intro table hmissing
  have hfirst := hp table hmissing
  generalize hrun : p table = first at hfirst
  cases hfirst with
  | refused hstop hleft hnests =>
    rw [Action.bind_of_error hrun]
    exact .refused hstop hleft hnests
  | final hstop hnests =>
    rw [Action.bind_of_error hrun]
    exact .final hstop hnests
  | returned hleft hnests =>
    rw [Action.bind_of_ok hrun]
    exact (hf _ _ hleft).after hnests

/-- Going on after an attempt leads from where the attempt has come to, if it lets final stops
pass. -/
theorem Leads.attempt {p : Watch α} {f : Except Stop α → Watch β} {back : List Int32}
    (hp : Leads start middle back p) (hok : ∀ a, Leads middle returned refused (f (.ok a)))
    (hrefused : ∀ stop, stop.isFinal = false → Leads back returned refused (f (.error stop)))
    (hfinal : ∀ stop, stop.isFinal = true → f (.error stop) = Action.stop stop) :
    Leads start returned refused (p.attempt >>= f) := by
  intro table hmissing
  have hfirst := hp table hmissing
  generalize hrun : p table = first at hfirst
  have hrun' : (p.attempt : Watch _) table = ⟨.ok first.result, first.state, first.notes⟩ := by
    rw [Action.attempt_apply, hrun]
  rw [Action.bind_of_ok hrun']
  cases hfirst with
  | returned hleft hnests => exact (hok _ _ hleft).after hnests
  | refused hstop hleft hnests => exact (hrefused _ hstop _ hleft).after hnests
  | final hstop hnests =>
    simp only [hfinal _ hstop, Action.stop_apply, List.append_nil]
    exact .final hstop hnests

/-- A call leads nowhere else. -/
theorem leads_call {c : Call} (hc : c.isFrameCall = false) (enclosing : List Int32) :
    Leads enclosing enclosing enclosing (watch enclosing (.call c)) := by
  intro table hmissing
  have hnests : Nests enclosing [⟨table, enclosing, .call c⟩] enclosing := .call .nil
  have hends : EndsPlainly _ ((Deed.call c).run table) := Call.plainly_run hc table hmissing
  unfold watch
  generalize (Deed.call c).run table = run at hends
  cases hends with
  | returned _ hleft _ => exact .returned hleft hnests
  | refused hstop hleft _ => exact .refused hstop hleft hnests
  | ended _ _ => exact .final rfl hnests

/-- Opening a frame leads into it. -/
theorem leads_openFrame (capacity : Int32) (enclosing refused : List Int32) :
    Leads enclosing (capacity :: enclosing) refused (watch enclosing (.openFrame capacity)) := by
  intro table hmissing
  have hleft : (table.answered .pushLocalFrame).missing = [] := by rw [missing_answered, hmissing]
  unfold watch
  simp only [Deed.run, Action.bind_pure_apply]
  by_cases hword : (table.upcoming .pushLocalFrame).toInt32 = 0
  · rw [openFrame_of_opened hmissing hword]
    exact .returned hleft (.opened hword .nil)
  · rw [openFrame_of_refused hmissing hword]
    exact .final rfl (.refused hword .nil)

/-- Closing a frame leads out of it. -/
theorem leads_closeFrame (capacity : Int32) (enclosing refused : List Int32) (x : Int64) :
    Leads (capacity :: enclosing) enclosing refused
      (watch (capacity :: enclosing) (.closeFrame x)) := by
  intro table hmissing
  unfold watch
  simp only [Deed.run, Action.bind_pure_apply]
  rw [closeFrameWith_eq hmissing]
  exact .returned (by rw [missing_answered, hmissing]) (.closed .nil)

/-- A frame whose body is nested is closed again, whether the body returns or is refused. -/
theorem Leads.inFrame {enclosing : List Int32} {capacity : Int32} {body : Watch Value}
    (hbody : Leads (capacity :: enclosing) (capacity :: enclosing) (capacity :: enclosing) body) :
    Leads enclosing enclosing enclosing (watchInFrame enclosing capacity body) := by
  refine (leads_openFrame capacity enclosing _).bind fun _ => ?_
  refine hbody.attempt ?_ ?_ ?_
  · intro value
    exact (leads_closeFrame capacity enclosing _ _).bind fun _ => Leads.pure value
  · intro stop hstop
    simp only [hstop, Bool.false_eq_true, if_false]
    exact (leads_closeFrame capacity enclosing _ _).bind fun _ => Leads.stop hstop
  · intro stop hstop
    simp only [hstop, if_true]

/-- A frame out of which an object is carried is closed again if its body is nested, whether the
body returns or is refused. -/
theorem Leads.inFrameCarrying {enclosing : List Int32} {capacity : Int32} {body : Watch Value}
    (hbody : Leads (capacity :: enclosing) (capacity :: enclosing) (capacity :: enclosing) body)
    (given : Option Int64) :
    Leads enclosing enclosing enclosing (watchInFrameCarrying enclosing capacity given body) := by
  refine (leads_openFrame capacity enclosing _).bind fun _ => ?_
  refine hbody.attempt ?_ ?_ ?_
  · intro value
    exact leads_closeFrame capacity enclosing _ _
  · intro stop hstop
    simp only [hstop, Bool.false_eq_true, if_false]
    exact (leads_closeFrame capacity enclosing _ _).bind fun _ => Leads.stop hstop
  · intro stop hstop
    simp only [hstop, if_true]

mutual

/-- A step that leaves its frames to its steps has nested histories. -/
theorem Step.leads_watch (enclosing : List Int32) :
    ∀ step : Step, (∀ c ∈ step.calls, c.isFrameCall = false) →
      Leads enclosing enclosing enclosing (step.watch enclosing)
  | .call c, hcalls => by
    rw [Step.watch]
    exact leads_call (hcalls c (by simp [Step.calls])) enclosing
  | .inFrame capacity body, hcalls => by
    rw [Step.calls] at hcalls
    rw [Step.watch]
    exact (Step.leads_watchAll _ .nothing body hcalls).inFrame
  | .inFrameCarrying capacity body given, hcalls => by
    rw [Step.calls] at hcalls
    rw [Step.watch]
    exact (Step.leads_watchAll _ .nothing body hcalls).inFrameCarrying given

/-- Steps that leave their frames to their steps have nested histories when they are run one after
another. -/
theorem Step.leads_watchAll (enclosing : List Int32) :
    ∀ (value : Value) (steps : List Step), (∀ c ∈ Step.callsAll steps, c.isFrameCall = false) →
      Leads enclosing enclosing enclosing (Step.watchAll enclosing value steps)
  | value, [], _ => by
    rw [Step.watchAll]
    exact Leads.pure value
  | value, step :: rest, hcalls => by
    rw [Step.callsAll] at hcalls
    rw [Step.watchAll]
    refine (Step.leads_watch enclosing step fun c hc => ?_).bind fun value => ?_
    · exact hcalls c (List.mem_append_left _ hc)
    · exact Step.leads_watchAll enclosing value rest fun c hc =>
        hcalls c (List.mem_append_right _ hc)

end

/-- A program that leaves its frames to its steps has nested histories. -/
theorem leads_watchProgram {steps : List Step}
    (hcalls : ∀ c ∈ Step.callsAll steps, c.isFrameCall = false) :
    Leads [] [] [] (watchProgram steps) := by
  induction steps with
  | nil => exact Leads.pure ()
  | cons step rest ih =>
    rw [Step.callsAll] at hcalls
    have hrest := ih fun c hc => hcalls c (List.mem_append_right _ hc)
    rw [watchProgram]
    refine (Step.leads_watch [] step fun c hc => ?_).attempt ?_ ?_ ?_
    · exact hcalls c (List.mem_append_left _ hc)
    · intro value
      exact hrest
    · intro stop hstop
      simp only [hstop, Bool.false_eq_true, if_false]
      exact hrest
    · intro stop hstop
      simp only [hstop, if_true]

/-! ### Around a body -/

/-- The call that opens a frame on a table. -/
def opening (table : FunctionTable) (capacity : Int32) : Item :=
  .call .pushLocalFrame (.capacity capacity) (some (table.upcoming .pushLocalFrame))

/-- The call that closes a frame on a table and carries an object out. -/
def closing (table : FunctionTable) (x : Int64) : Item :=
  .call .popLocalFrame (.word x) (some (table.upcoming .popLocalFrame))

/-- A step runs a body in a frame of its own on a table that opens the frame. The frame is closed
with what is carried out of the body, which depends on how the body ended, unless nothing runs after
the body. The step returns a value made of that of the body and of what the table answered to the
closing. -/
structure FramesBody (table : FunctionTable) (capacity : Int32) (body : List Step) (name : String)
    (carried : Except Stop Value → Int64) (value : Value → Int64 → Value) (step : Task Value) :
    Prop where
  /-- The body has returned. -/
  returned {v : Value} {later : FunctionTable} {notes : List Item}
      (hbody : Step.runAll .nothing body (table.answered .pushLocalFrame) = ⟨.ok v, later, notes⟩) :
      step table =
        ⟨.ok (value v (later.upcoming .popLocalFrame)), later.answered .popLocalFrame,
          opening table capacity :: notes ++ [closing later (carried (.ok v)),
            .returned name (value v (later.upcoming .popLocalFrame))]⟩
  /-- The body has been refused something. -/
  refused {stop : Stop} {later : FunctionTable} {notes : List Item}
      (hbody : Step.runAll .nothing body (table.answered .pushLocalFrame) =
        ⟨.error stop, later, notes⟩) (hstop : stop.isFinal = false) :
      step table =
        ⟨.error stop, later.answered .popLocalFrame,
          opening table capacity :: notes ++ [closing later (carried (.error stop))]⟩
  /-- Nothing runs after the body. -/
  final {stop : Stop} {later : FunctionTable} {notes : List Item}
      (hbody : Step.runAll .nothing body (table.answered .pushLocalFrame) =
        ⟨.error stop, later, notes⟩) (hstop : stop.isFinal = true) :
      step table = ⟨.error stop, later, opening table capacity :: notes⟩

variable {table : FunctionTable} {capacity : Int32} {body : List Step}

/-- All functions are still there after steps that leave their frames to their steps. -/
theorem missing_runAll (hmissing : table.missing = [])
    (hcalls : ∀ c ∈ Step.callsAll body, c.isFrameCall = false) :
    (Step.runAll .nothing body table).state.missing = [] := by
  have htold := Step.tracks_runAll [] .nothing body table
  have hnotes := Step.notesUnder_watchAll (fun _ hc => hc) [] .nothing body hcalls table hmissing
  generalize Step.watchAll [] .nothing body table = first at htold hnotes
  generalize Step.runAll .nothing body table = second at htold
  cases htold with
  | lasting _ _ _ | final _ _ _ _ => exact hnotes.1

/-- Closing a frame on a table is the call that closes it. -/
theorem popFrame_eq (hmissing : table.missing = []) (x : Int64) :
    host.popFrame x table =
      ⟨.ok (table.upcoming .popLocalFrame), table.answered .popLocalFrame, [closing table x]⟩ :=
  closeFrameWith_eq hmissing x

/-- A step in a frame carries nothing out and returns what its body returns. -/
theorem framesBody_inFrame (hmissing : table.missing = [])
    (hcalls : ∀ c ∈ Step.callsAll body, c.isFrameCall = false)
    (hopen : (table.upcoming .pushLocalFrame).toInt32 = 0) :
    FramesBody table capacity body "with_local_frame" (fun _ => host.null) (fun v _ => v)
      (Step.inFrame capacity body).run := by
  have hopened : host.openFrame capacity table =
      ⟨.ok (), table.answered .pushLocalFrame, [opening table capacity]⟩ :=
    openFrame_of_opened hmissing hopen
  have hanswered : (table.answered .pushLocalFrame).missing = [] := by
    rw [missing_answered, hmissing]
  have hleft := missing_runAll hanswered hcalls
  constructor
  · intro v later notes hbody
    rw [hbody] at hleft
    simp [Step.run, returning, runInFrame, Host.closeFrame, hopened, hbody, popFrame_eq hleft]
  · intro stop later notes hbody hstop
    rw [hbody] at hleft
    simp [Step.run, returning, runInFrame, Host.closeFrame, hopened, hbody, hstop,
      popFrame_eq hleft]
  · intro stop later notes hbody hstop
    simp [Step.run, returning, runInFrame, hopened, hbody, hstop]

/-- A step that carries an object out of its frame returns what the table answers to the closing.
The object is the one that the step was given, if any, and else the value of its body. A body that
was refused has no value, and one that took a handle for one of the other class breaks off, and then
nothing is carried out. -/
theorem framesBody_inFrameCarrying (hmissing : table.missing = [])
    (hcalls : ∀ c ∈ Step.callsAll body, c.isFrameCall = false)
    (hopen : (table.upcoming .pushLocalFrame).toInt32 = 0) (given : Option Int64) :
    FramesBody table capacity body "with_local_frame_returning_local"
      (fun
        | .ok v => given.getD v.toObject
        | .error (.misapplied _) => host.null
        | .error _ => given.getD host.null)
      (fun _ answer => .word answer) (Step.inFrameCarrying capacity body given).run := by
  have hopened : host.openFrame capacity table =
      ⟨.ok (), table.answered .pushLocalFrame, [opening table capacity]⟩ :=
    openFrame_of_opened hmissing hopen
  have hanswered : (table.answered .pushLocalFrame).missing = [] := by
    rw [missing_answered, hmissing]
  have hleft := missing_runAll hanswered hcalls
  constructor
  · intro v later notes hbody
    rw [hbody] at hleft
    simp [Step.run, returning, runInFrameCarrying, Host.closeFrameWith, hopened, hbody,
      popFrame_eq hleft]
  · intro stop later notes hbody hstop
    rw [hbody] at hleft
    cases stop <;>
      simp [Step.run, returning, runInFrameCarrying, Host.closeFrameWith, hopened, hbody, hstop,
        popFrame_eq hleft, Stop.carried]
  · intro stop later notes hbody hstop
    simp [Step.run, returning, runInFrameCarrying, hopened, hbody, hstop]

/-- In the transcript of a program that leaves its frames to its steps, on a table that has all
functions, every frame that is closed is open, and at the end none is, unless the host has been
ended. Then the call that ended it comes last, and the frames of the steps around the last deed are
open. A step closes its frame once, with null or with the object that it carries out. -/
theorem frames_well_nested (table : FunctionTable) (hmissing : table.missing = [])
    (steps : List Step) (hcalls : ∀ c ∈ Step.callsAll steps, c.isFrameCall = false) :
    ((∀ item ∈ (transcript table steps).1, item.endsHost = false) →
        openFrames (transcript table steps).1 = some []) ∧
      ((∃ item ∈ (transcript table steps).1, item.endsHost = true) →
        ∃ m before reason, (deeds table steps).getLast? = some m ∧
          m.outcome.result = .error .ended ∧
          (transcript table steps).1 = before ++ [.call .fatalError (.text reason) none] ∧
          (∀ item ∈ before, item.endsHost = false) ∧
          openFrames (transcript table steps).1 = some m.enclosing) ∧
      ∀ (t : FunctionTable) (capacity : Int32) (body : List Step) (given : Option Int64),
        t.missing = [] → (∀ c ∈ Step.callsAll body, c.isFrameCall = false) →
        (t.upcoming .pushLocalFrame).toInt32 = 0 →
        FramesBody t capacity body "with_local_frame" (fun _ => host.null) (fun v _ => v)
            (Step.inFrame capacity body).run ∧
          FramesBody t capacity body "with_local_frame_returning_local"
            (fun
              | .ok v => given.getD v.toObject
              | .error (.misapplied _) => host.null
              | .error _ => given.getD host.null)
            (fun _ answer => .word answer) (Step.inFrameCarrying capacity body given).run := by
  have hof : ∀ m ∈ deeds table steps, m.IsOf fun c => c.isFrameCall = false :=
    fun m hm => isOf_of_mem_deeds (fun _ hc => hc) hmissing hcalls hm
  have hends : Ends table steps := ends_of_calls (fun _ hc => hc) hmissing hcalls
  have htold : Tells (deeds table steps) (transcript table steps).1 := hends.tells
  have hled := leads_watchProgram hcalls table hmissing
  rw [← and_assoc]
  refine ⟨?_, fun t capacity body given ht hbody hopen =>
    ⟨framesBody_inFrame ht hbody hopen, framesBody_inFrameCarrying ht hbody hopen given⟩⟩
  cases hends with
  | lasting htells hnone hresult =>
    have hnests : Nests [] (deeds table steps) [] := hled.of_result hresult
    refine ⟨fun _ => hnests.foldlM_track htold hof, ?_⟩
    rintro ⟨item, hitem, hlast⟩
    rw [hnone item hitem] at hlast
    cases hlast
  | @final ms m items before reason hdeeds hlast hresult hnotes hitems htells hnone =>
    have hm : m.IsOf fun c => c.isFrameCall = false := hof m (by rw [hdeeds]; simp)
    obtain ⟨last, hnests⟩ : ∃ last, Nests [] (deeds table steps) last := hled.exists_nests
    have hopen : openFrames (transcript table steps).1 = some m.enclosing := by
      have henclosing : last = m.enclosing := by
        rw [hdeeds] at hnests
        exact hnests.last_eq hm hlast
      rw [← henclosing]
      exact hnests.foldlM_track htold hof
    have hsplit : (transcript table steps).1 =
        (items ++ before) ++ [.call .fatalError (.text reason) none] := by
      rw [hitems, hnotes, List.append_assoc]
    refine ⟨fun hnoEnd => ?_, fun _ => ?_⟩
    · have hlast := hnoEnd (.call .fatalError (.text reason) none) (by rw [hsplit]; simp)
      cases hlast
    · exact ⟨m, items ++ before, reason, by simp [hdeeds], hresult, hsplit, hnone, hopen⟩

/-- A frame is closed when its body is refused a handle, and two are left open when the host makes
no reference inside them. -/
theorem frames_left_open_by_end :
    openFrames (transcript {} [.inFrame 4 [.call (.resolve 0 (some .strong))]]).1 = some [] ∧
      openFrames (transcript {} [.inFrame 16 [.inFrameCarrying 8 [.call (.createStrong 5)] none],
        .inFrame 4 []]).1 = some [8, 16] := by
  have hclosed := (frames_well_nested {} rfl [.inFrame 4 [.call (.resolve 0 (some .strong))]]
    (by decide)).1 (by decide)
  obtain ⟨m, _, _, hm, -, -, -, hopen⟩ :=
    (frames_well_nested {} rfl
      [.inFrame 16 [.inFrameCarrying 8 [.call (.createStrong 5)] none], .inFrame 4 []]
      (by decide)).2.1 ⟨lastCall .tableExhausted, by decide, rfl⟩
  have henclosing : m.enclosing = [8, 16] := by
    have hlast : (deeds {} [.inFrame 16 [.inFrameCarrying 8 [.call (.createStrong 5)] none],
        .inFrame 4 []]).getLast?.map (·.enclosing) = some [8, 16] := by decide
    rw [hm] at hlast
    exact Option.some.inj hlast
  rw [hopen, henclosing]
  exact ⟨hclosed, rfl⟩

/-- A body that was refused a handle has failed, but the object that its step was given is carried
out, and not null. -/
theorem object_carried_out_of_refused_body :
    (transcript {} [.inFrameCarrying 16 [.call (.resolve 0 (some .strong))] (some 1)]).1 =
        [.call .pushLocalFrame (.capacity 16) (some 0), .call .popLocalFrame (.word 1) (some 0),
          .failed .zeroHandle] ∧
      (Step.runAll .nothing [.call (.resolve 0 (some .strong))]
        (answered {} .pushLocalFrame)).result = .error .zeroHandle ∧
      (1 : Int64) ≠ host.null :=
  ⟨by decide, rfl, by decide⟩

end DurableRefs.FunctionTable
