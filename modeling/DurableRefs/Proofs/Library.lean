import DurableRefs.Library

/-!
# Setting the log up once

The first call that sets the log up decides about filter and format, and no later call changes
them. Each call after it does its own work only: setting the log up again does nothing, and loading
reports the settings that it had to ignore and itself. This is so with every backend of the log,
wherever it reads or refuses the filter that is asked for from outside. Where it breaks the reading
off, no call gets through.
-/

namespace DurableRefs.Library

variable {Filter : Type} {backend : Log.Backend Filter} {library after : Library Filter}
  {filter : Filter} {format : Log.Format} {notes : List Log.Event} {reason : String}

/-! ### Calls -/

/-- A call that concerns the log. -/
inductive Call where
  /-- Set the log up. -/
  | setUp (options : Log.Options)
  /-- Load the library. -/
  | load (vars : Variables)

namespace Call

/-- The call as a job. -/
def job : Call → Job
  | setUp options => .setUp options
  | load vars => .load vars

/-- The options that a call asks for. If one variable is no setting, loading asks for the default
of both. -/
def options : Call → Log.Options
  | setUp options => options
  | load vars =>
    match vars.options with
    | .ok options => options
    | .error _ => {}

/-- What a call that gets through answers. -/
def answer : Call → Answer
  | setUp _ => .setUp (.ok ())
  | load _ => .loaded interfaceVersion

/-- What a call that gets through reports, apart from the setting up. -/
def report : Call → List Log.Event
  | setUp _ => []
  | load vars =>
    match vars.options with
    | .ok _ => [.loaded version]
    | .error e => [.settingsIgnored e, .loaded version]

/-- What a call answers where the reading of the filter is broken off. Loading answers nothing. -/
def refusal (reason : String) : Call → Option Answer
  | setUp _ => some (.setUp (.error (.brokenOff reason)))
  | load _ => none

/-- The calls of a list up to the first loading, and that one. -/
def untilLoad : List Call → List Call
  | [] => []
  | setUp options :: rest => setUp options :: untilLoad rest
  | load vars :: _ => [load vars]

end Call

/-! ### The filter -/

/-- A filter is the one for some options. -/
inductive FilterFor (backend : Log.Backend Filter) (library : Library Filter)
    (options : Log.Options) : Filter → Prop
  /-- The filter asked for from outside counts where it can be read. -/
  | given {filter : Filter} (hread : backend.read library.filterSpec = .ok filter) :
    FilterFor backend library options filter
  /-- Where the specification is refused, the name of the level specifies the filter. -/
  | ofLevel (hread : backend.read library.filterSpec = .error .refused) :
    FilterFor backend library options (backend.ofText options.level.name)

/-- Where the specification is refused, the filter is that of the level. -/
theorem FilterFor.eq_ofText (hfor : FilterFor backend library options filter)
    (hread : backend.read library.filterSpec = .error .refused) :
    filter = backend.ofText options.level.name := by
  cases hfor with
  | given hgiven =>
    rw [hread] at hgiven
    cases hgiven
  | ofLevel => rfl

/-- Where the reading is not broken off, a filter is found, and it is the one for the options. -/
theorem exists_filter
    (hends : ∀ reason, backend.read library.filterSpec ≠ .error (.brokenOff reason))
    (options : Log.Options) :
    ∃ filter, library.filter backend options = .ok filter ∧
      FilterFor backend library options filter := by
  rw [Library.filter]
  cases hread : backend.read library.filterSpec with
  | ok filter => exact ⟨filter, rfl, .given hread⟩
  | error unread =>
    cases unread with
    | refused => exact ⟨_, rfl, .ofLevel hread⟩
    | brokenOff reason => exact absurd hread (hends reason)

/-! ### One call -/

/-- The library with its own subscriber. -/
def latch (library : Library Filter) (filter : Filter) (options : Log.Options) : Library Filter :=
  { library with subscriber := .installed filter options.resolved.format }

/-- Where the library's own subscriber is there, setting up does nothing. -/
theorem setUp_of_installed (h : library.subscriber = .installed filter format)
    (options : Log.Options) : setUp backend options library = ⟨.ok (), library, []⟩ := by
  simp [setUp, h]

/-- Where nobody receives the events, setting up installs the library's own subscriber and reports
it. -/
theorem setUp_of_absent (h : library.subscriber = .absent)
    (hfilter : library.filter backend options = .ok filter) :
    setUp backend options library =
      ⟨.ok (), library.latch filter options, [.ready options.resolved]⟩ := by
  simp [setUp, latch, h, hfilter]

/-- Where nobody receives the events and the reading of the filter is broken off, setting up is
broken off. -/
theorem setUp_of_brokenOff (h : library.subscriber = .absent)
    (hread : backend.read library.filterSpec = .error (.brokenOff reason)) :
    setUp backend options library = ⟨.error (.brokenOff reason), library, []⟩ := by
  have hfilter : library.filter backend options = .error reason := by
    rw [Library.filter, hread]
  simp [setUp, h, hfilter]

/-- A call sets the log up as it asks and goes on to its own work. -/
theorem perform_of_setUp {call : Call}
    (h : setUp backend call.options library = ⟨.ok (), after, notes⟩) :
    library.perform backend call.job = ⟨some call.answer, notes ++ call.report, after⟩ := by
  cases call with
  | setUp options =>
    rw [Call.options] at h
    simp [perform, Call.job, Call.answer, Call.report, h]
  | load vars =>
    cases hvars : vars.options <;> rw [Call.options, hvars] at h <;>
      simp [perform, load, Call.job, Call.answer, Call.report, hvars, h]

/-- A call that is broken off when it sets the log up does nothing else. -/
theorem perform_of_brokenOff {call : Call}
    (h : setUp backend call.options library = ⟨.error (.brokenOff reason), library, []⟩) :
    library.perform backend call.job = ⟨call.refusal reason, [], library⟩ := by
  cases call with
  | setUp options =>
    rw [Call.options] at h
    simp [perform, Call.job, Call.refusal, h]
  | load vars =>
    cases hvars : vars.options <;> rw [Call.options, hvars] at h <;>
      simp [perform, load, Call.job, Call.refusal, hvars, h]

/-! ### Runs of calls -/

/-- What jobs leave behind one after another, up to an abort. -/
def outcomes (backend : Log.Backend Filter) (library : Library Filter) :
    List Job → List (Outcome Filter)
  | [] => []
  | job :: rest =>
    let outcome := library.perform backend job
    match outcome.answer with
    | none => [outcome]
    | some _ => outcome :: outcome.library.outcomes backend rest

/-- The trace of a run has the answers and the lines of what its jobs leave behind. -/
theorem runAll_eq (backend : Log.Backend Filter) (library : Library Filter) (jobs : List Job) :
    library.runAll backend jobs =
      { answers := (library.outcomes backend jobs).filterMap Outcome.answer
        lines := (library.outcomes backend jobs).flatMap fun outcome =>
          outcome.events.flatMap (outcome.library.subscriber.lines backend)
        aborted := (library.outcomes backend jobs).any fun outcome => outcome.answer.isNone } := by
  induction jobs generalizing library with
  | nil => rfl
  | cons job rest ih =>
    rw [runAll, outcomes]
    cases h : (library.perform backend job).answer with
    | none => simp [h]
    | some answer => simp [h, ih]

/-- What a call leaves behind that gets through. -/
def Call.outcome (call : Call) (notes : List Log.Event) (after : Library Filter) :
    Outcome Filter :=
  ⟨some call.answer, notes ++ call.report, after⟩

/-- Once the library's own subscriber is there, calls do their own work and leave it there. -/
theorem outcomes_of_installed (h : library.subscriber = .installed filter format)
    (calls : List Call) :
    library.outcomes backend (calls.map Call.job) =
      calls.map fun call => call.outcome [] library := by
  induction calls with
  | nil => rfl
  | cons call rest ih =>
    have hcall : library.perform backend call.job = call.outcome [] library :=
      perform_of_setUp (setUp_of_installed h call.options)
    rw [List.map_cons, outcomes, hcall, List.map_cons, ← ih]
    rfl

/-- The first call sets the log up, and the calls after it find it so. -/
theorem outcomes_of_absent {first : Call} (h : library.subscriber = .absent)
    (hfilter : library.filter backend first.options = .ok filter) (rest : List Call) :
    library.outcomes backend ((first :: rest).map Call.job) =
      first.outcome [.ready first.options.resolved] (library.latch filter first.options) ::
        rest.map fun call => call.outcome [] (library.latch filter first.options) := by
  have hfirst : library.perform backend first.job =
      first.outcome [.ready first.options.resolved] (library.latch filter first.options) :=
    perform_of_setUp (setUp_of_absent h hfilter)
  have hrest : (library.latch filter first.options).outcomes backend (rest.map Call.job) = _ :=
    outcomes_of_installed rfl rest
  rw [List.map_cons, outcomes, hfirst, ← hrest]
  rfl

/-- The trace of a run in which the first call sets the log up. -/
theorem runAll_of_absent {first : Call} (h : library.subscriber = .absent)
    (hfilter : library.filter backend first.options = .ok filter) (rest : List Call) :
    library.runAll backend ((first :: rest).map Call.job) =
      { answers := (first :: rest).map Call.answer
        lines := (.ready first.options.resolved :: (first :: rest).flatMap Call.report).flatMap
          ((library.latch filter first.options).subscriber.lines backend)
        aborted := false } := by
  rw [runAll_eq, outcomes_of_absent h hfilter]
  simp [Call.outcome, Function.comp_def, List.flatMap_map, List.flatMap_assoc]

/-- Where the reading of the filter is broken off, every call is refused and nothing changes, up to
the first loading, which aborts the process. -/
theorem outcomes_of_brokenOff (h : library.subscriber = .absent)
    (hread : backend.read library.filterSpec = .error (.brokenOff reason)) (calls : List Call) :
    library.outcomes backend (calls.map Call.job) =
      (Call.untilLoad calls).map fun call => ⟨call.refusal reason, [], library⟩ := by
  induction calls with
  | nil => rfl
  | cons call rest ih =>
    have hcall : library.perform backend call.job = ⟨call.refusal reason, [], library⟩ :=
      perform_of_brokenOff (setUp_of_brokenOff h hread)
    rw [List.map_cons, outcomes, hcall]
    cases call with
    | setUp options =>
      rw [Call.untilLoad, List.map_cons, ← ih]
      rfl
    | load vars => rfl

/-! ### The log of a run -/

/-- The report that the log has been set up. -/
def isReady : Log.Event → Bool
  | .ready _ => true
  | _ => false

/-- No call reports of its own that the log has been set up. -/
theorem filter_isReady_reports (calls : List Call) :
    (calls.flatMap Call.report).filter isReady = [] := by
  have hcall (call : Call) : call.report.filter isReady = [] := by
    cases call with
    | setUp options => rfl
    | load vars =>
      rw [Call.report]
      split <;> rfl
  simp only [List.filter_flatMap, hcall, List.flatMap_eq_nil_iff, implies_true]

/-- A run of calls whose first one sets the log up, once and for all. -/
structure SetUpOnce (backend : Log.Backend Filter) (library : Library Filter) (first : Call)
    (rest : List Call) (filter : Filter) : Prop where
  /-- Every call gets through. -/
  answers : (library.runAll backend ((first :: rest).map Call.job)).answers =
    (first :: rest).map Call.answer
  /-- No call aborts the process. -/
  completes : (library.runAll backend ((first :: rest).map Call.job)).aborted = false
  /-- After every call the filter is the one found first, and the format that of the first call. -/
  latched : ∀ outcome ∈ library.outcomes backend ((first :: rest).map Call.job),
    outcome.library.subscriber = .installed filter first.options.resolved.format
  /-- The first call reports the setting up and then what it has to report itself; every other
  call reports only the latter. -/
  reports : (library.outcomes backend ((first :: rest).map Call.job)).map Outcome.events =
    (.ready first.options.resolved :: first.report) :: rest.map Call.report
  /-- In the whole run the setting up is reported once. -/
  once : ((library.outcomes backend ((first :: rest).map Call.job)).flatMap
    Outcome.events).filter isReady = [.ready first.options.resolved]
  /-- The log has what the filter lets through of the reports, in the format. -/
  lines : (library.runAll backend ((first :: rest).map Call.job)).lines =
    (.ready first.options.resolved :: (first :: rest).flatMap Call.report).flatMap
      ((Subscriber.installed filter first.options.resolved.format).lines backend)
  /-- If the first call is a loading whose settings are ignored, warnings are logged as text. Where
  no filter is specified from outside, or what is specified is refused, the log says that they are
  ignored. -/
  fallback : ∀ vars e, first = .load vars → vars.options = .error e →
    first.options.resolved = { level := .warn, format := .text } ∧
      (library.filterSpec = none ∨ backend.read library.filterSpec = .error .refused →
        backend.lines .text (Log.Event.settingsIgnored e).record ≠ [] ∧
          backend.lines .text (Log.Event.settingsIgnored e).record <:+:
            (library.runAll backend ((first :: rest).map Call.job)).lines)

/-- The filter of warnings lets through that settings are ignored. -/
theorem lines_settingsIgnored (hbackend : backend.Documented) (e : SettingsError)
    (format : Log.Format) :
    (Subscriber.installed (backend.ofText Log.Level.warn.name) format).lines backend
        (.settingsIgnored e) =
      backend.lines format (Log.Event.settingsIgnored e).record := by
  have hallows : backend.allows (backend.ofText Log.Level.warn.name)
      (Log.Event.settingsIgnored e).record = true :=
    (hbackend.allows_ofText .warn _).mpr (Nat.le_refl _)
  rw [Subscriber.lines, if_pos hallows]

/-- Where the first call finds a filter, it sets the log up, and no later call changes it. -/
theorem setUpOnce_of_filter (hbackend : backend.Documented) (habsent : library.subscriber = .absent)
    {first : Call} (hfilter : library.filter backend first.options = .ok filter)
    (hfor : FilterFor backend library first.options filter) (rest : List Call) :
    SetUpOnce backend library first rest filter := by
  have hout := outcomes_of_absent habsent hfilter rest
  have hrun := runAll_of_absent habsent hfilter rest
  refine ⟨by rw [hrun], by rw [hrun], ?_, ?_, ?_, by rw [hrun]; rfl, ?_⟩
  · rw [hout]
    simp [Call.outcome, latch]
  · rw [hout]
    simp [Call.outcome]
  · have hevents : (library.outcomes backend ((first :: rest).map Call.job)).flatMap
        Outcome.events =
          .ready first.options.resolved :: (first :: rest).flatMap Call.report := by
      rw [hout]
      simp [Call.outcome, List.flatMap_map]
    rw [hevents, List.filter_cons_of_pos rfl, filter_isReady_reports]
  · rintro vars e rfl hrefused
    have hoptions : (Call.load vars).options = {} := by simp [Call.options, hrefused]
    have hreport : (Call.load vars).report = [.settingsIgnored e, .loaded version] := by
      simp [Call.report, hrefused]
    refine ⟨by rw [hoptions]; rfl, fun hnone => ⟨hbackend.lines_ne_nil _ _, ?_⟩⟩
    have hread : backend.read library.filterSpec = .error .refused := by
      rcases hnone with hnone | hread
      · rw [hnone, hbackend.read_none]
      · exact hread
    have hsubscriber : (library.latch filter (Call.load vars).options).subscriber =
        .installed (backend.ofText Log.Level.warn.name) .text := by
      rw [hfor.eq_ofText hread, hoptions]
      rfl
    rw [hrun, hsubscriber]
    simp only [List.flatMap_cons, hreport, List.cons_append, List.nil_append,
      lines_settingsIgnored hbackend]
    exact List.infix_append' _ _ _

/-- Where nobody receives the events of a process yet, the first call sets the log up, once and for
all, with the filter asked for from outside, or with that of its level if the backend refuses the
specification. Only where the backend breaks the reading off does no call get through. -/
theorem log_set_up_once (backend : Log.Backend Filter) (hbackend : backend.Documented)
    (library : Library Filter) (habsent : library.subscriber = .absent) (first : Call)
    (rest : List Call) :
    ((∀ reason, backend.read library.filterSpec ≠ .error (.brokenOff reason)) →
      ∃ filter, FilterFor backend library first.options filter ∧
        SetUpOnce backend library first rest filter) ∧
    ∀ reason, backend.read library.filterSpec = .error (.brokenOff reason) →
      library.outcomes backend ((first :: rest).map Call.job) =
        (Call.untilLoad (first :: rest)).map fun call => ⟨call.refusal reason, [], library⟩ := by
  constructor
  · intro hends
    obtain ⟨filter, hfilter, hfor⟩ := exists_filter hends first.options
    exact ⟨filter, hfor, setUpOnce_of_filter hbackend habsent hfilter hfor rest⟩
  · intro reason hread
    exact outcomes_of_brokenOff habsent hread (first :: rest)

/-- A backend whose filters are levels and whose readable lines end with the message. It refuses
every specification but one, a no-break space in front of the directive `a=info`, of which it breaks
the reading off. -/
def levels : Log.Backend Log.Level where
  read spec :=
    if spec = some [0xC2, 0xA0, 0x61, 0x3D, 0x69, 0x6E, 0x66, 0x6F] then
      .error (.brokenOff "end byte index 1 is not a char boundary")
    else .error .refused
  ofText text := (Log.Level.ofName? text).getD .error
  allows level r := r.level.verbosity ≤ level.verbosity
  lines
    | .json, r => [.object r]
    | _, r => [.text (r.level.heading ++ " " ++ r.target ++ ": " ++ r.message)]

/-- The backend of levels does what backends are described to do. -/
theorem documented_levels : levels.Documented where
  read_none := rfl
  allows_ofText level r := by
    have hlevel : levels.ofText level.name = level := by
      change (Log.Level.ofName? level.name).getD .error = level
      rw [Log.Level.ofName?_name, Option.getD_some]
    rw [hlevel]
    exact decide_eq_true_iff
  lines_ne_nil format r := by cases format <;> exact List.cons_ne_nil _ _

/-- Two equals signs are refused, and beside bytes that are no level the format does not count
either: warnings are logged as text, whatever later calls ask for. -/
theorem warnings_logged_after_bad_level :
    levels.Documented ∧
      ({ filterSpec := some [0x3D, 0x3D] } : Library Log.Level).subscriber = .absent ∧
      (∀ reason, levels.read (some [0x3D, 0x3D]) ≠ .error (.brokenOff reason)) ∧
      SetUpOnce levels { filterSpec := some [0x3D, 0x3D] }
        (.load { level := some [0xFF], format := some [0x6A, 0x73, 0x6F, 0x6E] })
        [.setUp { level := .trace, format := .json }, .load {}] .warn := by
  have hread : levels.read (some [0x3D, 0x3D]) = .error .refused := by rfl
  have hends : ∀ reason, levels.read (some [0x3D, 0x3D]) ≠ .error (.brokenOff reason) := by
    intro reason
    rw [hread]
    nofun
  obtain ⟨filter, hfor, honce⟩ := (log_set_up_once levels documented_levels
    { filterSpec := some [0x3D, 0x3D] } rfl
    (.load { level := some [0xFF], format := some [0x6A, 0x73, 0x6F, 0x6E] })
    [.setUp { level := .trace, format := .json }, .load {}]).1 hends
  obtain rfl : filter = .warn := hfor.eq_ofText hread
  exact ⟨documented_levels, rfl, hends, honce⟩

/-- A no-break space in front of a directive is enough: the log is not set up, and loading aborts
the process. -/
theorem set_up_refused_behind_blank :
    levels.Documented ∧
    (({ filterSpec := some [0xC2, 0xA0, 0x61, 0x3D, 0x69, 0x6E, 0x66, 0x6F] } :
        Library Log.Level).runAll levels [.setUp { level := .warn, format := .text }]).answers =
      [.setUp (.error (.brokenOff "end byte index 1 is not a char boundary"))] ∧
    (({ filterSpec := some [0xC2, 0xA0, 0x61, 0x3D, 0x69, 0x6E, 0x66, 0x6F] } :
        Library Log.Level).runAll levels [.load {}]).aborted = true :=
  ⟨documented_levels, rfl, rfl⟩

end DurableRefs.Library
