import DurableRefs.FunctionTable.Program
import DurableRefs.Log.Backend
import DurableRefs.Session.Step

/-!
# The library in a process

A process loads the library, sets its log up, and puts it to work. The log is set up once: the
first call installs a subscriber, and later calls leave it as it is. What becomes of an event is up
to the backend of the log.
-/

namespace DurableRefs

/-- The version of the library. -/
def version : String := "0.0.1"

/-- The version of the host's interface that the library asks for. -/
def interfaceVersion : Int32 := 0x00010006

variable {Filter : Type}

/-- Who receives the events of a process. -/
inductive Subscriber (Filter : Type) where
  /-- Nobody. -/
  | absent
  /-- Somebody else, who was there before the library. -/
  | foreign
  /-- The library's own subscriber. -/
  | installed (filter : Filter) (format : Log.Format)
  deriving DecidableEq, Repr

/-- The library as it stands in a process. -/
structure Library (Filter : Type) where
  /-- The bytes that specify a filter from outside. Where they can be read, the filter counts and
  the level does not. -/
  filterSpec : Option (List UInt8) := none
  /-- Who receives the events. -/
  subscriber : Subscriber Filter := .absent
  deriving DecidableEq, Repr

namespace Library

/-- The filter for some options. A specification that is refused does not count. If its reading is
broken off, there is no filter at all. -/
def filter (backend : Log.Backend Filter) (library : Library Filter) (options : Log.Options) :
    Except String Filter :=
  match backend.read library.filterSpec with
  | .ok filter => .ok filter
  | .error .refused => .ok (backend.ofText options.level.name)
  | .error (.brokenOff reason) => .error reason

/-- Why the log has not been set up. -/
inductive Obstacle where
  /-- The settings or another subscriber stand against it. -/
  | refused (e : SettingsError)
  /-- The reading of the filter has been broken off. -/
  | brokenOff (reason : String)
  deriving DecidableEq, Repr

/-- Set the log up. -/
def setUp (backend : Log.Backend Filter) (options : Log.Options) :
    Action (Library Filter) Log.Event Obstacle Unit := do
  let library ← Action.state
  match library.subscriber, library.filter backend options with
  | .installed .., _ => return
  | _, .error reason => Action.stop (.brokenOff reason)
  | .foreign, .ok _ => Action.stop (.refused .subscriberPresent)
  | .absent, .ok filter =>
    Action.put { library with
      subscriber := .installed filter options.resolved.format }
    Action.note (.ready options.resolved)

/-- Load the library. The log is set up as the environment asks; settings that cannot be used are
ignored together. Only a filter of which the reading is broken off stops the loading. -/
def load (backend : Log.Backend Filter) (vars : Variables) :
    Action (Library Filter) Log.Event String Int32 := do
  let asked := vars.options
  let options := match asked with
    | .ok options => options
    | .error _ => {}
  match ← Action.attempt (setUp backend options) with
  | .ok () => pure ()
  | .error (.refused e) => Action.note (.subscriberKept e)
  | .error (.brokenOff reason) => Action.stop reason
  match asked with
  | .ok _ => pure ()
  | .error e => Action.note (.settingsIgnored e)
  Action.note (.loaded version)
  return interfaceVersion

/-- Something that a process does with the library. -/
inductive Job where
  /-- Set the log up. -/
  | setUp (options : Log.Options)
  /-- Load the library. -/
  | load (vars : Variables)
  /-- Hold a session on heaps. -/
  | session (heaps : List Heap) (steps : List Session.Step)
  /-- Run a program on a function table. -/
  | program (table : FunctionTable) (steps : List FunctionTable.Step)
  /-- Do nothing that concerns the log. -/
  | idle

/-- What comes of a job. -/
inductive Answer where
  /-- The log has been set up, or not. -/
  | setUp (result : Except Obstacle Unit)
  /-- The library has been loaded, and asks for a version of the host's interface. -/
  | loaded (version : Int32)
  /-- What was told in a session. -/
  | session (entries : List (Session.Entry × List Log.Event))
  /-- The transcript of a program. -/
  | transcript (items : List FunctionTable.Item)
  /-- Nothing. -/
  | idle

/-- What a job left behind. -/
structure Outcome (Filter : Type) where
  /-- What came of the job, unless the process was aborted. -/
  answer : Option Answer
  /-- The events in order. -/
  events : List Log.Event
  /-- The library afterwards. -/
  library : Library Filter

/-- Do a job. A library that cannot be loaded aborts the process. -/
def perform (backend : Log.Backend Filter) (library : Library Filter) : Job → Outcome Filter
  | .setUp options =>
    let run := setUp backend options library
    ⟨some (.setUp run.result), run.notes, run.state⟩
  | .load vars =>
    let run := load backend vars library
    match run.result with
    | .ok version => ⟨some (.loaded version), run.notes, run.state⟩
    | .error _ => ⟨none, run.notes, run.state⟩
  | .session heaps steps =>
    let notes := Session.notesOf heaps steps
    ⟨some (.session (Session.entries notes)), Session.events notes, library⟩
  | .program table steps =>
    let (items, aborted) := FunctionTable.transcript table steps
    ⟨if aborted then none else some (.transcript items), FunctionTable.events items, library⟩
  | .idle => ⟨some .idle, [], library⟩

end Library

/-- What a subscriber writes for an event. -/
def Subscriber.lines (backend : Log.Backend Filter) (subscriber : Subscriber Filter)
    (e : Log.Event) : List Log.Line :=
  match subscriber with
  | .installed filter format =>
    if backend.allows filter e.record then backend.lines format e.record else []
  | _ => []

namespace Library

/-- What jobs left behind. -/
structure Trace where
  /-- What came of the jobs, up to an abort. -/
  answers : List Answer
  /-- The lines of the log. -/
  lines : List Log.Line
  /-- Whether the process was aborted. -/
  aborted : Bool

/-- Do jobs one after another. A job sets the log up before its first event, so the subscriber
that is there afterwards has received all of them. -/
def runAll (backend : Log.Backend Filter) (library : Library Filter) : List Job → Trace
  | [] => ⟨[], [], false⟩
  | job :: rest =>
    let outcome := library.perform backend job
    let lines := outcome.events.flatMap (outcome.library.subscriber.lines backend)
    match outcome.answer with
    | none => ⟨[], lines, true⟩
    | some answer =>
      let trace := outcome.library.runAll backend rest
      ⟨answer :: trace.answers, lines ++ trace.lines, trace.aborted⟩

end Library

end DurableRefs
