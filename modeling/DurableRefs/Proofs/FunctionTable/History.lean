import DurableRefs.Proofs.Action
import DurableRefs.Proofs.FunctionTable.Evaluation

/-!
# Histories of programs

A program does one thing after another: it calls the library, and opens and closes the frames of
its steps. A history lists these deeds with the table that each of them finds and with the steps
around it. It is taken by running the program with other notes, and the transcript of the program
consists of what the deeds of its history leave behind.
-/

namespace DurableRefs.FunctionTable

variable {α β : Type}

/-! ### Deeds -/

/-- A single thing that a program does. -/
inductive Deed where
  /-- Call the library. -/
  | call (c : Call)
  /-- Open the frame of a step. -/
  | openFrame (capacity : Int32)
  /-- Close the frame of a step and carry an object out. -/
  | closeFrame (x : Int64)
  deriving DecidableEq, Repr

/-- Do a single thing. -/
def Deed.run : Deed → Task Value
  | call c => c.run
  | openFrame capacity => do
    host.openFrame capacity
    return .nothing
  | closeFrame x => return .word (← host.closeFrameWith x)

/-- A deed of a program with what it finds. -/
structure Moment where
  /-- The table before the deed. -/
  table : FunctionTable
  /-- The room of the frames that the steps around the deed have opened, innermost first. -/
  enclosing : List Int32
  /-- The deed. -/
  deed : Deed
  deriving DecidableEq, Repr

/-- What the deed left behind. -/
def Moment.outcome (m : Moment) : Run FunctionTable Item Stop Value := m.deed.run m.table

/-- What a call left behind. -/
theorem Moment.outcome_of_call {m : Moment} {c : Call} (hdeed : m.deed = .call c) :
    m.outcome = c.run m.table := by
  rw [Moment.outcome, hdeed, Deed.run]

/-- Whether nothing runs after the deed. -/
def Moment.isLast (m : Moment) : Bool :=
  match m.outcome.result with
  | .ok _ => false
  | .error stop => stop.isFinal

/-! ### Taking a history -/

/-- Actions on a function table that note deeds. -/
abbrev Watch := Action FunctionTable Moment Stop

/-- Do a single thing inside some frames and note it. -/
def watch (enclosing : List Int32) (deed : Deed) : Watch Value := fun table =>
  ⟨(deed.run table).result, (deed.run table).state, [⟨table, enclosing, deed⟩]⟩

/-- Run a body in a frame and return its value. -/
def watchInFrame (enclosing : List Int32) (capacity : Int32) (body : Watch Value) :
    Watch Value := do
  let _ ← watch enclosing (.openFrame capacity)
  match ← Action.attempt body with
  | .ok value =>
    let _ ← watch (capacity :: enclosing) (.closeFrame host.null)
    return value
  | .error stop =>
    if stop.isFinal then
      Action.stop stop
    else
      let _ ← watch (capacity :: enclosing) (.closeFrame host.null)
      Action.stop stop

/-- Run a body in a frame and carry an object out. -/
def watchInFrameCarrying (enclosing : List Int32) (capacity : Int32) (given : Option Int64)
    (body : Watch Value) : Watch Value := do
  let _ ← watch enclosing (.openFrame capacity)
  match ← Action.attempt body with
  | .ok value => watch (capacity :: enclosing) (.closeFrame (given.getD value.toObject))
  | .error stop =>
    if stop.isFinal then
      Action.stop stop
    else
      let _ ← watch (capacity :: enclosing) (.closeFrame (stop.carried given))
      Action.stop stop

mutual

/-- Run a step inside some frames. -/
def Step.watch (enclosing : List Int32) : Step → Watch Value
  | .call c => FunctionTable.watch enclosing (.call c)
  | .inFrame capacity body =>
    watchInFrame enclosing capacity (Step.watchAll (capacity :: enclosing) .nothing body)
  | .inFrameCarrying capacity body given =>
    watchInFrameCarrying enclosing capacity given
      (Step.watchAll (capacity :: enclosing) .nothing body)

/-- Run steps one after another inside some frames. -/
def Step.watchAll (enclosing : List Int32) (last : Value) : List Step → Watch Value
  | [] => return last
  | step :: rest => do
    let value ← step.watch enclosing
    Step.watchAll enclosing value rest

end

/-- Run outermost steps one after another. -/
def watchProgram : List Step → Watch Unit
  | [] => return
  | step :: rest => do
    match ← Action.attempt (step.watch []) with
    | .ok _ => watchProgram rest
    | .error stop =>
      if stop.isFinal then Action.stop stop else watchProgram rest

/-- The history of a program on a table: its deeds, in order. -/
def deeds (table : FunctionTable) (steps : List Step) : List Moment :=
  (watchProgram steps table).notes

/-! ### A transcript tells a history -/

/-- A transcript tells moments if it consists of what their deeds left behind, in order, and in
between of what steps returned and which of them failed. -/
inductive Tells : List Moment → List Item → Prop
  /-- Nothing has been done. -/
  | nil : Tells [] []
  /-- A deed is told. -/
  | deed (m : Moment) {ms : List Moment} {items : List Item} (hrest : Tells ms items) :
      Tells (m :: ms) (m.outcome.notes ++ items)
  /-- A step has returned. -/
  | returned (step : String) (value : Value) {ms : List Moment} {items : List Item}
      (hrest : Tells ms items) : Tells ms (.returned step value :: items)
  /-- An outermost step has failed. -/
  | failed (stop : Stop) {ms : List Moment} {items : List Item} (hrest : Tells ms items) :
      Tells ms (.failed stop :: items)

/-- Transcripts are told one after the other. -/
theorem Tells.append {ms ns : List Moment} {items more : List Item} (hfirst : Tells ms items)
    (hsecond : Tells ns more) : Tells (ms ++ ns) (items ++ more) := by
  induction hfirst with
  | nil => exact hsecond
  | deed m _ ih =>
    rw [List.append_assoc]
    exact .deed m ih
  | returned step value _ ih => exact .returned step value ih
  | failed stop _ ih => exact .failed stop ih

/-- A single deed is told by what it left behind. -/
theorem tells_outcome (m : Moment) : Tells [m] m.outcome.notes := by
  simpa using Tells.deed m .nil

/-- How a run and its history end together. Either no deed was the last one, or the run has stopped
for the reason of the last deed, and nothing is told after it. -/
inductive Told : Run FunctionTable Moment Stop α → Run FunctionTable Item Stop α → Prop
  /-- The program can go on. -/
  | lasting {result : Except Stop α} {table : FunctionTable} {ms : List Moment} {items : List Item}
      (hresult : ∀ stop, result = .error stop → stop.isFinal = false)
      (htells : Tells ms items) (hms : ∀ m ∈ ms, m.isLast = false) :
      Told ⟨result, table, ms⟩ ⟨result, table, items⟩
  /-- Nothing runs after the last deed. -/
  | final {stop : Stop} {table : FunctionTable} {ms : List Moment} {items : List Item} {m : Moment}
      (hstop : stop.isFinal = true) (hm : m.outcome.result = .error stop)
      (htells : Tells ms items) (hms : ∀ m ∈ ms, m.isLast = false) :
      Told ⟨.error stop, table, ms ++ [m]⟩ ⟨.error stop, table, items ++ m.outcome.notes⟩

/-- An action that takes a history tracks an action that writes a transcript if they end together
on every table. -/
def Tracks (p : Watch α) (q : Task α) : Prop := ∀ table, Told (p table) (q table)

/-- Returning is tracked. -/
theorem Tracks.pure (a : α) : Tracks (Pure.pure a) (Pure.pure a) :=
  fun _ => .lasting nofun .nil nofun

/-- Being refused is tracked. -/
theorem Tracks.stop {stop : Stop} (hstop : stop.isFinal = false) :
    Tracks (Action.stop stop : Watch α) (Action.stop stop) := by
  intro table
  refine .lasting ?_ .nil nofun
  rintro _ ⟨⟩
  exact hstop

/-- Writing down that a step has returned is tracked by doing nothing. -/
theorem Tracks.returned (step : String) (value : Value) :
    Tracks (Pure.pure ()) (Action.note (.returned step value)) :=
  fun _ => .lasting nofun (.returned step value .nil) nofun

/-- Writing down that a step has failed is tracked by doing nothing. -/
theorem Tracks.failed (stop : Stop) : Tracks (Pure.pure ()) (Action.note (.failed stop)) :=
  fun _ => .lasting nofun (.failed stop .nil) nofun

/-- A deed is tracked by noting it. -/
theorem tracks_watch (enclosing : List Int32) (deed : Deed) :
    Tracks (watch enclosing deed) deed.run := by
  intro table
  have hends : ∀ result state notes, deed.run table = ⟨result, state, notes⟩ →
      Told ⟨result, state, [⟨table, enclosing, deed⟩]⟩
        (⟨result, state, notes⟩ : Run FunctionTable Item Stop Value) := by
    intro result state notes hrun
    have houtcome : (⟨table, enclosing, deed⟩ : Moment).outcome = ⟨result, state, notes⟩ := hrun
    have htells : Tells [⟨table, enclosing, deed⟩] notes := by
      simpa only [houtcome] using tells_outcome ⟨table, enclosing, deed⟩
    have hlast : ∀ {stop}, result = .error stop → stop.isFinal = false →
        ∀ m ∈ [(⟨table, enclosing, deed⟩ : Moment)], m.isLast = false := by
      rintro stop rfl hstop m hm
      rw [List.mem_singleton.mp hm, Moment.isLast, houtcome]
      exact hstop
    cases result with
    | ok value =>
      refine .lasting nofun htells ?_
      intro m hm
      rw [List.mem_singleton.mp hm, Moment.isLast, houtcome]
    | error stop =>
      cases hstop : stop.isFinal with
      | false =>
        refine .lasting ?_ htells (hlast rfl hstop)
        rintro _ ⟨⟩
        exact hstop
      | true =>
        have hfinal := @Told.final Value stop state [] [] ⟨table, enclosing, deed⟩ hstop
          (by rw [houtcome]) .nil nofun
        simpa only [List.nil_append, houtcome] using hfinal
  exact hends _ _ _ rfl

/-- Going on is tracked if both parts are. -/
theorem Tracks.bind {p : Watch α} {q : Task α} {f : α → Watch β} {g : α → Task β}
    (hpq : Tracks p q) (hfg : ∀ a, Tracks (f a) (g a)) : Tracks (p >>= f) (q >>= g) := by
  intro table
  have hfirst := hpq table
  generalize hp : p table = first at hfirst
  generalize hq : q table = second at hfirst
  cases hfirst with
  | final hstop hm htells hms =>
    rw [Action.bind_of_error hp, Action.bind_of_error hq]
    exact .final hstop hm htells hms
  | @lasting result middle ms items hresult htells hms =>
    cases result with
    | error stop =>
      rw [Action.bind_of_error hp, Action.bind_of_error hq]
      refine .lasting ?_ htells hms
      rintro _ ⟨⟩
      exact hresult stop rfl
    | ok a =>
      rw [Action.bind_of_ok hp, Action.bind_of_ok hq]
      have hrest := hfg a middle
      generalize f a middle = first at hrest
      generalize g a middle = second at hrest
      have hall : ∀ {ns : List Moment}, (∀ m ∈ ns, m.isLast = false) →
          ∀ m ∈ ms ++ ns, m.isLast = false := by
        intro ns hns m hm
        rcases List.mem_append.mp hm with hm | hm
        · exact hms m hm
        · exact hns m hm
      cases hrest with
      | lasting hresult hmore hns => exact .lasting hresult (htells.append hmore) (hall hns)
      | final hstop hm hmore hns =>
        rw [← List.append_assoc, ← List.append_assoc]
        exact .final hstop hm (htells.append hmore) (hall hns)

/-- Going on after an attempt is tracked if it lets final stops pass and is tracked otherwise. -/
theorem Tracks.attempt {p : Watch α} {q : Task α} {f : Except Stop α → Watch β}
    {g : Except Stop α → Task β} (hpq : Tracks p q) (hok : ∀ a, Tracks (f (.ok a)) (g (.ok a)))
    (hrefused : ∀ stop, stop.isFinal = false → Tracks (f (.error stop)) (g (.error stop)))
    (hfinal : ∀ stop, stop.isFinal = true →
      f (.error stop) = Action.stop stop ∧ g (.error stop) = Action.stop stop) :
    Tracks (p.attempt >>= f) (q.attempt >>= g) := by
  intro table
  have hfirst := hpq table
  generalize hp : p table = first at hfirst
  generalize hq : q table = second at hfirst
  have hp' : (p.attempt : Watch _) table = ⟨.ok first.result, first.state, first.notes⟩ := by
    rw [Action.attempt_apply, hp]
  have hq' : (q.attempt : Task _) table = ⟨.ok second.result, second.state, second.notes⟩ := by
    rw [Action.attempt_apply, hq]
  rw [Action.bind_of_ok hp', Action.bind_of_ok hq']
  cases hfirst with
  | @final stop middle ms items m hstop hm htells hms =>
    obtain ⟨hf, hg⟩ := hfinal stop hstop
    simp only [hf, hg, Action.stop_apply, List.append_nil]
    exact .final hstop hm htells hms
  | @lasting result middle ms items hresult htells hms =>
    -- neither side has stopped for good, so both go on from the same result
    have hgo : Tracks (f result) (g result) := by
      cases result with
      | ok a => exact hok a
      | error stop => exact hrefused stop (hresult stop rfl)
    have hpure : Tracks (fun t => ⟨.ok (), t, ms⟩ : Watch Unit) (fun t => ⟨.ok (), t, items⟩) :=
      fun _ => .lasting nofun htells hms
    exact (hpure.bind fun _ => hgo) middle

/-! ### Programs are tracked -/

/-- Opening a frame is a deed. -/
theorem openFrame_eq_run (capacity : Int32) :
    host.openFrame capacity = (Deed.openFrame capacity).run >>= fun _ => pure () := by
  simp [Deed.run]

/-- Closing a frame is a deed. -/
theorem closeFrame_eq_run :
    host.closeFrame = (Deed.closeFrame host.null).run >>= fun _ => pure () := by
  simp [Deed.run, Host.closeFrame, Host.closeFrameWith]

/-- Closing a frame with an object is a deed. -/
theorem closeFrameWith_eq_run (x : Int64) (k : Task β) :
    (host.closeFrameWith x >>= fun _ => k) = (Deed.closeFrame x).run >>= fun _ => k := by
  simp [Deed.run]

/-- A step that notes what it returned is tracked like the step. -/
theorem Tracks.returning {p : Watch Value} {q : Task Value} (hpq : Tracks p q) (name : String) :
    Tracks p (returning name q) := by
  rw [← bind_pure p]
  refine hpq.bind fun value => ?_
  rw [← pure_bind () fun _ => (Pure.pure value : Watch Value)]
  exact (Tracks.returned name value).bind fun _ => Tracks.pure value

/-- A body in a frame is tracked. -/
theorem Tracks.inFrame {p : Watch Value} {q : Task Value} (hpq : Tracks p q)
    (enclosing : List Int32) (capacity : Int32) :
    Tracks (watchInFrame enclosing capacity p) (runInFrame capacity q) := by
  unfold watchInFrame runInFrame
  simp only [openFrame_eq_run, closeFrame_eq_run, bind_assoc, pure_bind]
  refine (tracks_watch enclosing (.openFrame capacity)).bind fun _ => ?_
  refine Tracks.attempt hpq ?_ ?_ ?_
  · intro value
    exact (tracks_watch _ _).bind fun _ => Tracks.pure value
  · intro stop hstop
    simp only [hstop, Bool.false_eq_true, if_false]
    exact (tracks_watch _ _).bind fun _ => Tracks.stop hstop
  · intro stop hstop
    simp only [hstop, if_true, and_self]

/-- A body in a frame out of which an object is carried is tracked. -/
theorem Tracks.inFrameCarrying {p : Watch Value} {q : Task Value} (hpq : Tracks p q)
    (enclosing : List Int32) (capacity : Int32) (given : Option Int64) :
    Tracks (watchInFrameCarrying enclosing capacity given p)
      (runInFrameCarrying capacity given q) := by
  unfold watchInFrameCarrying runInFrameCarrying
  simp only [openFrame_eq_run, closeFrameWith_eq_run, bind_assoc, pure_bind]
  refine (tracks_watch enclosing (.openFrame capacity)).bind fun _ => ?_
  refine Tracks.attempt hpq ?_ ?_ ?_
  · intro value
    exact tracks_watch _ _
  · intro stop hstop
    simp only [hstop, Bool.false_eq_true, if_false]
    exact (tracks_watch _ _).bind fun _ => Tracks.stop hstop
  · intro stop hstop
    simp only [hstop, if_true, and_self]

mutual

/-- A step is tracked. -/
theorem Step.tracks_run (enclosing : List Int32) :
    ∀ step : Step, Tracks (step.watch enclosing) step.run
  | .call c => by
    rw [Step.watch, Step.run]
    exact (tracks_watch enclosing (.call c)).returning c.name
  | .inFrame capacity body => by
    rw [Step.watch, Step.run]
    have hbody := Step.tracks_runAll (capacity :: enclosing) .nothing body
    exact (hbody.inFrame enclosing capacity).returning _
  | .inFrameCarrying capacity body given => by
    rw [Step.watch, Step.run]
    have hbody := Step.tracks_runAll (capacity :: enclosing) .nothing body
    exact (hbody.inFrameCarrying enclosing capacity given).returning _

/-- Steps that are run one after another are tracked. -/
theorem Step.tracks_runAll (enclosing : List Int32) :
    ∀ (last : Value) (steps : List Step),
      Tracks (Step.watchAll enclosing last steps) (Step.runAll last steps)
  | last, [] => by
    rw [Step.watchAll, Step.runAll]
    exact Tracks.pure last
  | last, step :: rest => by
    rw [Step.watchAll, Step.runAll]
    exact (Step.tracks_run enclosing step).bind fun value => Step.tracks_runAll enclosing value rest

end

/-- A program is tracked: its transcript tells its history, and the two end together. -/
theorem tracks_performAll (steps : List Step) : Tracks (watchProgram steps) (performAll steps) := by
  induction steps with
  | nil => exact Tracks.pure ()
  | cons step rest ih =>
    rw [watchProgram, performAll]
    refine Tracks.attempt (Step.tracks_run [] step) ?_ ?_ ?_
    · intro value
      exact ih
    · intro stop hstop
      simp only [hstop, Bool.false_eq_true, if_false]
      rw [← pure_bind () fun _ => watchProgram rest]
      exact (Tracks.failed stop).bind fun _ => ih
    · intro stop hstop
      simp only [hstop, if_true, and_self]

/-- What a transcript tells, by how its program ended. -/
theorem transcript_cases (table : FunctionTable) (steps : List Step) :
    Tells (deeds table steps) (transcript table steps).1 ∧
        (∀ m ∈ deeds table steps, m.isLast = false) ∧
        (∀ stop, (watchProgram steps table).result = .error stop → stop.isFinal = false) ∨
      ∃ ms m items, deeds table steps = ms ++ [m] ∧
        (transcript table steps).1 = items ++ m.outcome.notes ∧ m.isLast = true ∧
        Tells ms items ∧ ∀ n ∈ ms, n.isLast = false := by
  have hnotes : (transcript table steps).1 = (performAll steps table).notes := by
    unfold transcript
    dsimp only
    split <;> rfl
  have htold := tracks_performAll steps table
  rw [hnotes, deeds]
  generalize watchProgram steps table = first at htold
  generalize performAll steps table = second at htold
  cases htold with
  | lasting hresult htells hms => exact .inl ⟨htells, hms, hresult⟩
  | @final stop later ms items m hstop hm htells hms =>
    refine .inr ⟨ms, m, items, rfl, rfl, ?_, htells, hms⟩
    rw [Moment.isLast, hm]
    exact hstop

/-! ### What a transcript consists of -/

section Tells

variable {ms : List Moment} {items : List Item}

/-- The items of a transcript that neither say what was returned nor what failed are those that the
deeds left behind. -/
theorem Tells.mem_iff (h : Tells ms items) {item : Item}
    (hreturned : ∀ step value, item ≠ .returned step value)
    (hfailed : ∀ stop, item ≠ .failed stop) :
    item ∈ items ↔ ∃ m ∈ ms, item ∈ m.outcome.notes := by
  induction h with
  | nil => simp
  | deed m _ ih => simp [ih]
  | returned step value _ ih => simp [ih, hreturned]
  | failed stop _ ih => simp [ih, hfailed]

/-- A transcript that tells two histories one after the other falls into the transcripts of both. -/
theorem Tells.exists_append {ms ns : List Moment} {items : List Item} (h : Tells (ms ++ ns) items) :
    ∃ first rest, items = first ++ rest ∧ Tells ms first ∧ Tells ns rest := by
  generalize hks : ms ++ ns = ks at h
  induction h generalizing ms with
  | nil =>
    obtain ⟨rfl, rfl⟩ := List.append_eq_nil_iff.mp hks
    exact ⟨[], [], rfl, .nil, .nil⟩
  | @deed m ks items hrest ih =>
    cases ms with
    | nil =>
      rw [List.nil_append] at hks
      exact ⟨[], _, rfl, .nil, hks ▸ .deed m hrest⟩
    | cons k ms =>
      obtain ⟨rfl, htail⟩ := List.cons.inj hks
      obtain ⟨first, rest, rfl, hfirst, hsecond⟩ := ih htail
      exact ⟨k.outcome.notes ++ first, rest, (List.append_assoc ..).symm, .deed k hfirst, hsecond⟩
  | @returned step value ks items _ ih =>
    obtain ⟨first, rest, rfl, hfirst, hsecond⟩ := ih hks
    exact ⟨.returned step value :: first, rest, rfl, .returned step value hfirst, hsecond⟩
  | @failed stop ks items _ ih =>
    obtain ⟨first, rest, rfl, hfirst, hsecond⟩ := ih hks
    exact ⟨.failed stop :: first, rest, rfl, .failed stop hfirst, hsecond⟩

/-- What comes before the first deed in a transcript tells nothing. -/
theorem Tells.exists_cons {m : Moment} (h : Tells (m :: ms) items) :
    ∃ skipped rest, items = skipped ++ (m.outcome.notes ++ rest) ∧ Tells [] skipped ∧
      Tells ms rest := by
  generalize hks : m :: ms = ks at h
  induction h with
  | nil => cases hks
  | @deed m ks items hrest _ =>
    obtain ⟨rfl, rfl⟩ := List.cons.inj hks
    exact ⟨[], items, rfl, .nil, hrest⟩
  | @returned step value ks items _ ih =>
    obtain ⟨skipped, rest, rfl, hskipped, hrest⟩ := ih hks
    exact ⟨.returned step value :: skipped, rest, rfl, .returned step value hskipped, hrest⟩
  | @failed stop ks items _ ih =>
    obtain ⟨skipped, rest, rfl, hskipped, hrest⟩ := ih hks
    exact ⟨.failed stop :: skipped, rest, rfl, .failed stop hskipped, hrest⟩

end Tells

/-! ### What a history consists of -/

mutual

/-- The calls in a step. -/
def Step.calls : Step → List Call
  | .call c => [c]
  | .inFrame _ body => Step.callsAll body
  | .inFrameCarrying _ body _ => Step.callsAll body

/-- The calls in some steps. -/
def Step.callsAll : List Step → List Call
  | [] => []
  | step :: rest => step.calls ++ Step.callsAll rest

end

/-- A deed is one of a program whose calls have a property, on a table that has all functions. -/
structure Moment.IsOf (p : Call → Prop) (m : Moment) : Prop where
  /-- No function is missing. -/
  missing : m.table.missing = []
  /-- The call is one of the program. -/
  call {c : Call} (hdeed : m.deed = .call c) : p c

/-- No function is lost by a deed. -/
theorem Deed.missing_run {table : FunctionTable} (hmissing : table.missing = []) {deed : Deed}
    (hdeed : ∀ c, deed = .call c → c.isFrameCall = false) :
    (deed.run table).state.missing = [] := by
  cases deed with
  | call c =>
    have hends := Call.plainly_run (hdeed c rfl) table hmissing
    simp only [Deed.run]
    generalize c.run table = run at hends
    cases hends with
    | returned _ hlater _ | refused _ hlater _ | ended hlater _ => exact hlater
  | openFrame capacity =>
    simp only [Deed.run, Action.bind_pure_apply]
    by_cases hword : (table.upcoming .pushLocalFrame).toInt32 = 0
    · rw [openFrame_of_opened hmissing hword, missing_answered, hmissing]
    · rw [openFrame_of_refused hmissing hword, missing_answered, hmissing]
  | closeFrame x =>
    simp only [Deed.run, Action.bind_pure_apply]
    rw [closeFrameWith_eq hmissing, missing_answered, hmissing]

section IsOf

open DurableRefs.Action (NotesUnder)

variable {p : Call → Prop}

/-- A single deed is noted as what it is. -/
theorem notesUnder_watch (hp : ∀ c, p c → c.isFrameCall = false) (enclosing : List Int32)
    {deed : Deed} (hdeed : ∀ c, deed = .call c → p c) :
    (watch enclosing deed).NotesUnder (fun table => table.missing = []) (Moment.IsOf p) := by
  intro table hmissing
  refine ⟨Deed.missing_run hmissing fun c hc => hp c (hdeed c hc), ?_⟩
  intro m hm
  rw [List.mem_singleton.mp hm]
  exact ⟨hmissing, fun hc => hdeed _ hc⟩

/-- Going on after an attempt notes deeds of a program if each way to go on does. -/
theorem notesUnder_attempt {q : Watch α} {f : Except Stop α → Watch β}
    (hq : q.NotesUnder (fun table => table.missing = []) (Moment.IsOf p))
    (hok : ∀ a, (f (.ok a)).NotesUnder (fun table => table.missing = []) (Moment.IsOf p))
    (hstop : ∀ stop, (f (.error stop)).NotesUnder (fun table => table.missing = [])
      (Moment.IsOf p)) :
    (q.attempt >>= f).NotesUnder (fun table => table.missing = []) (Moment.IsOf p) := by
  refine hq.attempt.bind fun result => ?_
  cases result with
  | ok a => exact hok a
  | error stop => exact hstop stop

/-- A body in a frame notes the deeds of the body, and the opening and closing of the frame. -/
theorem notesUnder_watchInFrame (hp : ∀ c, p c → c.isFrameCall = false) (enclosing : List Int32)
    (capacity : Int32) {body : Watch Value}
    (hbody : body.NotesUnder (fun table => table.missing = []) (Moment.IsOf p)) :
    (watchInFrame enclosing capacity body).NotesUnder (fun table => table.missing = [])
      (Moment.IsOf p) := by
  refine (notesUnder_watch hp enclosing (by rintro _ ⟨⟩)).bind fun _ => ?_
  refine notesUnder_attempt hbody ?_ ?_
  · intro value
    exact (notesUnder_watch hp _ (by rintro _ ⟨⟩)).bind fun _ => NotesUnder.pure value
  · intro stop
    dsimp only
    split
    · exact NotesUnder.stop stop
    · exact (notesUnder_watch hp _ (by rintro _ ⟨⟩)).bind fun _ => NotesUnder.stop stop

/-- A body out of whose frame an object is carried notes the deeds of the body, and the opening and
closing of the frame. -/
theorem notesUnder_watchInFrameCarrying (hp : ∀ c, p c → c.isFrameCall = false)
    (enclosing : List Int32) (capacity : Int32) (given : Option Int64) {body : Watch Value}
    (hbody : body.NotesUnder (fun table => table.missing = []) (Moment.IsOf p)) :
    (watchInFrameCarrying enclosing capacity given body).NotesUnder
      (fun table => table.missing = []) (Moment.IsOf p) := by
  refine (notesUnder_watch hp enclosing (by rintro _ ⟨⟩)).bind fun _ => ?_
  refine notesUnder_attempt hbody ?_ ?_
  · intro value
    exact notesUnder_watch hp _ (by rintro _ ⟨⟩)
  · intro stop
    dsimp only
    split
    · exact NotesUnder.stop stop
    · exact (notesUnder_watch hp _ (by rintro _ ⟨⟩)).bind fun _ => NotesUnder.stop stop

mutual

/-- A step notes its own deeds. -/
theorem Step.notesUnder_watch (hp : ∀ c, p c → c.isFrameCall = false) (enclosing : List Int32) :
    ∀ step : Step, (∀ c ∈ step.calls, p c) →
      (step.watch enclosing).NotesUnder (fun table => table.missing = []) (Moment.IsOf p)
  | .call c, hcalls => by
    rw [Step.watch]
    refine FunctionTable.notesUnder_watch hp enclosing ?_
    rintro _ ⟨⟩
    exact hcalls c (by simp [Step.calls])
  | .inFrame capacity body, hcalls => by
    rw [Step.calls] at hcalls
    rw [Step.watch]
    exact notesUnder_watchInFrame hp enclosing capacity
      (Step.notesUnder_watchAll hp _ .nothing body hcalls)
  | .inFrameCarrying capacity body given, hcalls => by
    rw [Step.calls] at hcalls
    rw [Step.watch]
    exact notesUnder_watchInFrameCarrying hp enclosing capacity given
      (Step.notesUnder_watchAll hp _ .nothing body hcalls)

/-- Steps that are run one after another note their own deeds. -/
theorem Step.notesUnder_watchAll (hp : ∀ c, p c → c.isFrameCall = false)
    (enclosing : List Int32) :
    ∀ (last : Value) (steps : List Step), (∀ c ∈ Step.callsAll steps, p c) →
      (Step.watchAll enclosing last steps).NotesUnder (fun table => table.missing = [])
        (Moment.IsOf p)
  | last, [], _ => by
    rw [Step.watchAll]
    exact NotesUnder.pure last
  | last, step :: rest, hcalls => by
    rw [Step.callsAll] at hcalls
    rw [Step.watchAll]
    refine (Step.notesUnder_watch hp enclosing step fun c hc => ?_).bind fun value => ?_
    · exact hcalls c (List.mem_append_left _ hc)
    · exact Step.notesUnder_watchAll hp enclosing value rest fun c hc =>
        hcalls c (List.mem_append_right _ hc)

end

/-- The deeds of a program that has all functions call what the program calls. -/
theorem isOf_of_mem_deeds (hp : ∀ c, p c → c.isFrameCall = false) {table : FunctionTable}
    (hmissing : table.missing = []) {steps : List Step} (hcalls : ∀ c ∈ Step.callsAll steps, p c)
    {m : Moment} (hm : m ∈ deeds table steps) : m.IsOf p := by
  have hnotes : (watchProgram steps).NotesUnder (fun table => table.missing = [])
      (Moment.IsOf p) := by
    clear hm
    induction steps with
    | nil => exact NotesUnder.pure ()
    | cons step rest ih =>
      rw [Step.callsAll] at hcalls
      have hrest := ih fun c hc => hcalls c (List.mem_append_right _ hc)
      rw [watchProgram]
      refine notesUnder_attempt ?_ ?_ ?_
      · exact Step.notesUnder_watch hp [] step fun c hc => hcalls c (List.mem_append_left _ hc)
      · intro value
        exact hrest
      · intro stop
        dsimp only
        split
        · exact NotesUnder.stop stop
        · exact hrest
  exact (hnotes table hmissing).2 m hm

/-- How a deed of a program ends that has all functions: either more can be done and the host has
not been ended, or the host has been ended by a call that comes last. -/
theorem Moment.IsOf.ends {m : Moment} (hm : m.IsOf p) (hp : ∀ c, p c → c.isFrameCall = false) :
    m.isLast = false ∧ (∀ item ∈ m.outcome.notes, item.endsHost = false) ∨
      m.isLast = true ∧ m.outcome.result = .error .ended ∧
        ∃ before reason, m.outcome.notes = before ++ [.call .fatalError (.text reason) none] ∧
          ∀ item ∈ before, item.endsHost = false := by
  obtain ⟨table, enclosing, deed⟩ := m
  have hmissing : table.missing = [] := hm.missing
  have hplain : ∀ {notes : List Item}, (∀ item ∈ notes, item.isPlain = true) →
      ∀ item ∈ notes, item.endsHost = false :=
    fun hnotes item hitem => Item.endsHost_of_isPlain (hnotes item hitem)
  cases deed with
  | call c =>
    have hends := Call.plainly_run (hp c (hm.call rfl)) table hmissing
    simp only [Moment.isLast, Moment.outcome, Deed.run]
    generalize c.run table = run at hends
    cases hends with
    | returned _ _ hnotes => exact .inl ⟨rfl, hplain hnotes⟩
    | refused hstop _ hnotes => exact .inl ⟨hstop, hplain hnotes⟩
    | ended _ hnotes => exact .inr ⟨rfl, rfl, _, _, rfl, hplain hnotes⟩
  | openFrame capacity =>
    simp only [Moment.isLast, Moment.outcome, Deed.run, Action.bind_pure_apply]
    by_cases hword : (table.upcoming .pushLocalFrame).toInt32 = 0
    · rw [openFrame_of_opened hmissing hword]
      exact .inl ⟨rfl, by simp [Item.endsHost]⟩
    · rw [openFrame_of_refused hmissing hword]
      exact .inr ⟨rfl, rfl, [_, _], _, rfl, by simp [Item.endsHost]⟩
  | closeFrame x =>
    simp only [Moment.isLast, Moment.outcome, Deed.run, Action.bind_pure_apply]
    rw [closeFrameWith_eq hmissing]
    exact .inl ⟨rfl, by simp [Item.endsHost]⟩

/-- In a program that has all functions, deeds after which more can be done leave no item behind
that ends the host. -/
theorem Tells.endsHost_of_mem {ms : List Moment} {items : List Item} (h : Tells ms items)
    (hp : ∀ c, p c → c.isFrameCall = false) (hms : ∀ m ∈ ms, m.IsOf p)
    (hlasting : ∀ m ∈ ms, m.isLast = false) : ∀ item ∈ items, item.endsHost = false := by
  induction h with
  | nil => nofun
  | @deed m ms items _ ih =>
    have hrest := ih (fun n hn => hms n (List.mem_cons_of_mem m hn)) fun n hn =>
      hlasting n (List.mem_cons_of_mem m hn)
    rcases (hms m List.mem_cons_self).ends hp with ⟨-, hnotes⟩ | ⟨hlast, -⟩
    · exact List.forall_mem_append.mpr ⟨hnotes, hrest⟩
    · rw [hlasting m List.mem_cons_self] at hlast
      cases hlast
  | returned _ _ _ ih | failed _ _ ih => exact List.forall_mem_cons.mpr ⟨rfl, ih hms hlasting⟩

/-- How the transcript of a program ends that has all functions and leaves its frames to its
steps. -/
inductive Ends (table : FunctionTable) (steps : List Step) : Prop
  /-- No item ends the host. -/
  | lasting (htells : Tells (deeds table steps) (transcript table steps).1)
      (hnone : ∀ item ∈ (transcript table steps).1, item.endsHost = false)
      (hresult : ∀ stop, (watchProgram steps table).result = .error stop → stop.isFinal = false)
  /-- The last deed ends the host by the last item. -/
  | final {ms : List Moment} {m : Moment} {items before : List Item} {reason : String}
      (hdeeds : deeds table steps = ms ++ [m]) (hlast : m.isLast = true)
      (hresult : m.outcome.result = .error .ended)
      (hnotes : m.outcome.notes = before ++ [.call .fatalError (.text reason) none])
      (hitems : (transcript table steps).1 = items ++ m.outcome.notes) (htells : Tells ms items)
      (hnone : ∀ item ∈ items ++ before, item.endsHost = false)

/-- The transcript of a program that has all functions and leaves its frames to its steps ends
without ending the host, or by the last deed. -/
theorem ends_of_calls (hp : ∀ c, p c → c.isFrameCall = false) {table : FunctionTable}
    (hmissing : table.missing = []) {steps : List Step}
    (hcalls : ∀ c ∈ Step.callsAll steps, p c) : Ends table steps := by
  have hof : ∀ m ∈ deeds table steps, m.IsOf p :=
    fun m hm => isOf_of_mem_deeds hp hmissing hcalls hm
  rcases transcript_cases table steps with
    ⟨htells, hlasting, hresult⟩ | ⟨ms, m, items, hdeeds, hitems, hlast, htells, hlasting⟩
  · exact .lasting htells (htells.endsHost_of_mem hp hof hlasting) hresult
  · rw [hdeeds] at hof
    rcases (hof m (by simp)).ends hp with ⟨hgoes, -⟩ | ⟨-, hresult, before, reason, hnotes, hbefore⟩
    · rw [hlast] at hgoes
      cases hgoes
    · refine .final hdeeds hlast hresult hnotes hitems htells ?_
      have hms : ∀ n ∈ ms, n.IsOf p := fun n hn => hof n (List.mem_append_left _ hn)
      exact List.forall_mem_append.mpr ⟨htells.endsHost_of_mem hp hms hlasting, hbefore⟩

/-- A transcript tells the history of its program, however it ends. -/
theorem Ends.tells {table : FunctionTable} {steps : List Step} (h : Ends table steps) :
    Tells (deeds table steps) (transcript table steps).1 := by
  cases h with
  | lasting htells _ _ => exact htells
  | @final ms m items _ _ hdeeds _ _ _ hitems htells _ =>
    rw [hdeeds, hitems]
    exact htells.append (tells_outcome m)

end IsOf

end DurableRefs.FunctionTable
