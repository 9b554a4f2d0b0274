/-
# What a compilation does to its surroundings

`PureOutcome` says how a compilation ends.  This file says what it does on the way, as a list of
events: stage calls, log records, measurements.  The list is a plain function of toolchain, data,
environment and argument, like the outcome, and it is all there is: the surroundings after a
compilation are those before it, `after` its events.

* An `Event` is an action and the script in which it happens: the innermost call that is going on.
  What the action sees of the trace follows from that (`Event.trace`).
* `CompileM.Does` says that a step does a list of events in ALL surroundings.
* `Toolchain.referenceEvents`, `textEvents` and `gatedEvents` are the events of a script by its id,
  of a text without an id, and of a script with gate and transform.
* A top-level compilation also draws an id, reads the clock and reports its outcome, which are not
  events; `run_compile` gives the whole of it as one equation.
-/
import Mathlib
import ScriptTemplate.Proofs.Descent

namespace ScriptTemplate

open CompileM

/-! ## 1. Events -/

/-- Something that a compilation does to its surroundings. -/
inductive Action
  | parse (text : Text)
  | createResolver (ancestry : List Text)
  | resolve (text : Text)
  | collect (text : Text) (errors : Nat)
  | reduce (text : Text) (capabilities : Capabilities)
  | log (level : Log.Level) (logger message : Text)
  | observeDepth (depth : Nat)
  | countCycle

/-- An action, and the innermost script in which it happens, if there is one. -/
structure Event where
  place : Option Call
  action : Action

namespace Event

/-- An action of the step itself. -/
def own (action : Action) : Event := ⟨none, action⟩

/-- The same event as part of the compilation of a script. -/
def inside (call : Call) (event : Event) : Event :=
  { event with place := some (event.place.getD call) }

theorem place_inside_of_none {event : Event} (h : event.place = none) {call : Call} :
    (event.inside call).place = some call := by
  simp [inside, h]

theorem place_inside_of_some {event : Event} {inner : Call} (h : event.place = some inner)
    {call : Call} : (event.inside call).place = some inner := by
  simp [inside, h]

/-- The trace that an event sees, given the trace around the whole. -/
def trace (around : Trace) (event : Event) : Trace :=
  match event.place with
  | none => around
  | some (env, id) => around.change (Toolchain.scriptTrace env id)

/-- The stage call that an event is, if it is one. -/
def stageCall? (around : Trace) (event : Event) : Option StageCall :=
  match event.action with
  | .parse text => some (.parse text (event.trace around))
  | .createResolver ancestry => some (.createResolver ancestry)
  | .resolve text => some (.resolve text)
  | .collect text errors => some (.collect text errors)
  | .reduce text capabilities => some (.reduce text capabilities)
  | .log .. | .observeDepth _ | .countCycle => none

end Event

/-- The line that a record of a plain message leaves, if its level passes. -/
def Log.Sink.line? (sink : Sink) (trace : Trace) (level : Level) (logger message : Text) :
    Option Line :=
  if level.passes sink.threshold then
    some ⟨sink.layout, {
      template := .str message
      label := .str level.name
      logger := .str (loggerName logger)
      origin := Origin.ofTrace trace }⟩
  else none

namespace Event

/-- The log line that an event leaves, if it leaves one. -/
def line? (sink : Option Log.Sink) (around : Trace) (event : Event) : Option Log.Line :=
  match event.action with
  | .log level logger message =>
    sink.bind fun sink => sink.line? (event.trace around) level logger message
  | _ => none

/-- What an event does to the metrics. -/
def measure (metrics : Metrics.Registry) (event : Event) : Metrics.Registry :=
  match event.action with
  | .observeDepth depth => metrics.observeDepth (.int depth)
  | .countCycle => metrics.countCycle
  | _ => metrics

end Event

/-- The surroundings after a list of events. -/
def Ambient.after (ambient : Ambient) (events : List Event) : Ambient :=
  { ambient with
    metrics := events.foldl Event.measure ambient.metrics
    lines := ambient.lines ++ events.filterMap (Event.line? ambient.sink ambient.trace)
    journal := ambient.journal ++ events.filterMap (Event.stageCall? ambient.trace) }

@[simp] theorem Ambient.after_nil (ambient : Ambient) : ambient.after [] = ambient := by
  simp [Ambient.after]

/-- The surroundings after one event. -/
theorem Ambient.after_singleton (ambient : Ambient) (event : Event) :
    ambient.after [event] =
      { ambient with
        metrics := event.measure ambient.metrics
        lines := ambient.lines ++ (event.line? ambient.sink ambient.trace).toList
        journal := ambient.journal ++ (event.stageCall? ambient.trace).toList } := by
  have single {α : Type} (f : Event → Option α) : [event].filterMap f = (f event).toList := by
    cases h : f event <;> simp [h]
  simp only [Ambient.after, single, List.foldl_cons, List.foldl_nil]

theorem Ambient.after_append (ambient : Ambient) (events more : List Event) :
    ambient.after (events ++ more) = (ambient.after events).after more := by
  simp [Ambient.after, List.filterMap_append, List.foldl_append]

/-- A script sets all of the trace that scripts set, whatever was set around it. -/
theorem Trace.change_scriptTrace (around : Trace) (outer inner : Call) :
    (around.change (Toolchain.scriptTrace outer.1 outer.2)).change
        (Toolchain.scriptTrace inner.1 inner.2) =
      around.change (Toolchain.scriptTrace inner.1 inner.2) := rfl

/-- **An event inside a script sees the trace of the innermost one.** -/
theorem Event.trace_inside (around : Trace) (call : Call) (event : Event) :
    (event.inside call).trace around =
      event.trace (around.change (Toolchain.scriptTrace call.1 call.2)) := by
  obtain ⟨_ | place, action⟩ := event
  · rfl
  · exact (Trace.change_scriptTrace around call place).symm

theorem Event.stageCall?_inside (around : Trace) (call : Call) (event : Event) :
    (event.inside call).stageCall? around =
      event.stageCall? (around.change (Toolchain.scriptTrace call.1 call.2)) := by
  unfold Event.stageCall?
  rw [Event.trace_inside]
  rfl

theorem Event.line?_inside (sink : Option Log.Sink) (around : Trace) (call : Call)
    (event : Event) :
    (event.inside call).line? sink around =
      event.line? sink (around.change (Toolchain.scriptTrace call.1 call.2)) := by
  unfold Event.line?
  rw [Event.trace_inside]
  rfl

/-- **Events inside a script leave what they leave under its trace.** -/
theorem Ambient.after_map_inside (ambient : Ambient) (call : Call) (events : List Event) :
    ambient.after (events.map (Event.inside call)) =
      { ({ ambient with
            trace := ambient.trace.change (Toolchain.scriptTrace call.1 call.2) } : Ambient).after
          events with trace := ambient.trace } := by
  have calls : Event.stageCall? ambient.trace ∘ Event.inside call =
      Event.stageCall? (ambient.trace.change (Toolchain.scriptTrace call.1 call.2)) :=
    funext fun event => event.stageCall?_inside ambient.trace call
  have lines : Event.line? ambient.sink ambient.trace ∘ Event.inside call =
      Event.line? ambient.sink
        (ambient.trace.change (Toolchain.scriptTrace call.1 call.2)) :=
    funext fun event => event.line?_inside ambient.sink ambient.trace call
  have metrics : (events.map (Event.inside call)).foldl Event.measure ambient.metrics =
      events.foldl Event.measure ambient.metrics := List.foldl_map
  unfold Ambient.after
  rw [List.filterMap_map, List.filterMap_map, calls, lines, metrics]

/-! ## 2. Steps and their events -/

/-- What is done after a step that may escape: nothing if it does. -/
def onReturn {α : Type} (outcome : Except Escape α) (events : α → List Event) : List Event :=
  match outcome with
  | .ok value => events value
  | .error _ => []

theorem mem_onReturn {α : Type} {outcome : Except Escape α} {events : α → List Event}
    {event : Event} :
    event ∈ onReturn outcome events ↔ ∃ value, outcome = .ok value ∧ event ∈ events value := by
  cases outcome <;> simp [onReturn]

namespace CompileM

variable {α β : Type}

/-- **A step does a list of events**, and nothing else, in all surroundings. -/
def Does (step : CompileM α) (events : List Event) : Prop :=
  ∀ ambient, (step.run ambient).2 = ambient.after events

/-- A step that is one event. -/
def Acts (step : CompileM Unit) (action : Action) : Prop :=
  ∀ ambient, step.run ambient = (.ok (), ambient.after [.own action])

theorem does_pure (value : α) : (pure value : CompileM α).Does [] :=
  fun ambient => ambient.after_nil.symm

theorem does_ofExcept (outcome : Except Escape α) : (ofExcept outcome).Does [] :=
  fun ambient => ambient.after_nil.symm

theorem Acts.andThen {step : CompileM Unit} {action : Action} {next : Unit → CompileM α}
    {events : List Event} (acts : step.Acts action) (rest : (next ()).Does events) :
    (step >>= next).Does (.own action :: events) := by
  intro ambient
  rw [run_bind, acts ambient]
  exact (rest _).trans (ambient.after_append [.own action] events).symm

/-- One step after another: the events of the second follow if the first returns. -/
theorem Does.bind {step : CompileM α} {next : α → CompileM β} {outcome : Except Escape α}
    {events : List Event} {rest : α → List Event} (first : step.Does events)
    (ends : step.Yields outcome) (second : ∀ value, (next value).Does (rest value)) :
    (step >>= next).Does (events ++ onReturn outcome rest) := by
  intro ambient
  have done := first ambient
  have ended := ends ambient
  rw [run_bind, Ambient.after_append]
  rcases hs : step.run ambient with ⟨_ | value, after⟩
  · rw [hs] at done ended
    rw [← ended, ← done]
    exact after.after_nil.symm
  · rw [hs] at done ended
    rw [← ended, ← done]
    exact second value after

/-- What is done with the result of a step is no event. -/
theorem Does.map {step : CompileM α} {events : List Event} (h : step.Does events) (f : α → β) :
    (step >>= fun value => pure (f value)).Does events := by
  intro ambient
  have done := h ambient
  rw [run_bind]
  rcases hs : step.run ambient with ⟨_ | value, after⟩
  · rw [hs] at done
    exact done
  · rw [hs] at done
    exact done

/-- **Under the trace of a script, a step does its events inside of it.** -/
theorem Does.within {step : CompileM α} {events : List Event} (h : step.Does events)
    (env : Environment) (id : Text) :
    (CompileM.within (Toolchain.scriptTrace env id) step).Does
      (events.map (Event.inside (env, id))) := by
  intro ambient
  rw [Ambient.after_map_inside, ← h]
  rfl

end CompileM

/-- The step that does an action. -/
def Action.step : Action → CompileM Unit
  | .parse text => noteParse text
  | .createResolver ancestry => note (.createResolver ancestry)
  | .resolve text => note (.resolve text)
  | .collect text errors => note (.collect text errors)
  | .reduce text capabilities => note (.reduce text capabilities)
  | .log level logger message => CompileM.log level logger message
  | .observeDepth depth => measure (·.observeDepth (.int depth))
  | .countCycle => measure (·.countCycle)

/-- **The step of an action does that action.** -/
theorem Action.acts_step (action : Action) : action.step.Acts action := by
  intro ambient
  rw [Ambient.after_singleton]
  obtain ⟨host, trace, metrics, readings, drawn, sink, lines, journal⟩ := ambient
  cases action with
  | log level logger message =>
    cases sink with
    | none =>
      simp [Action.step, CompileM.log, logFilled, update, CompileM.run, Event.own,
        Event.stageCall?, Event.line?, Event.measure]
    | some sink =>
      by_cases passes : level.passes sink.threshold
      all_goals
        simp [Action.step, CompileM.log, logFilled, update, CompileM.run, Event.own,
          Event.stageCall?, Event.line?, Event.measure, Event.trace, Log.Sink.line?, passes]
  | parse text =>
    simp [Action.step, noteParse, update, CompileM.run, Event.own, Event.stageCall?, Event.line?,
      Event.measure, Event.trace]
  | createResolver _ | resolve _ | collect _ _ | reduce _ _ =>
    simp [Action.step, note, update, CompileM.run, Event.own, Event.stageCall?, Event.line?,
      Event.measure]
  | observeDepth _ | countCycle =>
    simp [Action.step, CompileM.measure, update, CompileM.run, Event.own, Event.stageCall?,
      Event.line?, Event.measure]

/-! ## 3. Resolvers and stages -/

/-- The events of a resolver: those of the scripts that it asks for, as far as it comes. -/
def Resolving.events {α : Type} (known : Text → Except Escape Verdict)
    (below : Text → List Event) : Resolving α → List Event
  | .done _ => []
  | .fail _ => []
  | .reference id next => below id ++ onReturn (known id) fun verdict =>
    (next verdict).events known below

theorem Resolving.does_run {α : Type} {answer : Text → CompileM Verdict}
    {known : Text → Except Escape Verdict} {below : Text → List Event}
    (ends : ∀ id, (answer id).Yields (known id)) (does : ∀ id, (answer id).Does (below id))
    (r : Resolving α) : (r.run answer).Does (r.events known below) := by
  induction r with
  | done value => exact does_pure value
  | fail escape => exact does_ofExcept _
  | reference id next ih => exact (does id).bind (ends id) ih

namespace Toolchain

variable {τ ρ σ : Type}

/-- The events of the reduce stage. -/
def reduceEvents (T : Toolchain τ ρ σ) (env : Environment) (text : Text) (resolved : ρ) :
    List Event :=
  .own (.reduce text env.capabilities) :: onReturn (T.reduce env.capabilities resolved) fun
    | .bytecode .. => []
    | .errors _ others _ => [.own (.log .debug stageLogger (unreducedNote (others.length + 1)))]

/-- The events that follow once a tree is resolved. -/
def resolvedEvents (T : Toolchain τ ρ σ) (env : Environment) (text : Text) (resolved : ρ) :
    List Event :=
  .own (.collect text (T.collect resolved).length) ::
    match T.collect resolved with
    | [] => T.reduceEvents env text resolved
    | errors => [.own (.log .debug stageLogger (unresolvedNote errors.length))]

/-- The events that follow once a text is parsed. -/
def parsedEvents (T : Toolchain τ ρ σ) (data : Data) (env : Environment)
    (known : Text → Except Escape Verdict) (below : Text → List Event) (text : Text) (tree : τ) :
    List Event :=
  .own (.createResolver env.ancestry) :: .own (.resolve text) ::
    ((T.resolve data env tree).events known below ++
      onReturn ((T.resolve data env tree).settle known) (T.resolvedEvents env text))

/-- The events of all stages of a text. -/
def stagesEvents (T : Toolchain τ ρ σ) (data : Data) (env : Environment)
    (known : Text → Except Escape Verdict) (below : Text → List Event) (text : Text) :
    List Event :=
  .own (.parse text) :: onReturn (T.parse text) fun
    | .error failure => [.own (.log .debug stageLogger (unparsedNote failure))]
    | .ok tree => T.parsedEvents data env known below text tree

theorem does_reduceStage (T : Toolchain τ ρ σ) (env : Environment) (text : Text) (tree : τ)
    (resolved : ρ) :
    (T.reduceStage env text tree resolved).Does (T.reduceEvents env text resolved) := by
  refine (Action.acts_step (.reduce text env.capabilities)).andThen ?_
  refine (does_ofExcept _).bind (yields_ofExcept _) fun reduction => ?_
  cases reduction with
  | bytecode bytecode states => exact does_pure _
  | errors first others states => exact (Action.acts_step (.log ..)).andThen (does_pure _)

theorem does_resolveStage (T : Toolchain τ ρ σ) (data : Data) (env : Environment)
    {answer : Text → CompileM Verdict} {known : Text → Except Escape Verdict}
    {below : Text → List Event} (ends : ∀ id, (answer id).Yields (known id))
    (does : ∀ id, (answer id).Does (below id)) (text : Text) (tree : τ) :
    (T.resolveStage data env answer text tree).Does
      (T.parsedEvents data env known below text tree) := by
  refine (Action.acts_step (.createResolver _)).andThen ?_
  refine (Action.acts_step (.resolve _)).andThen ?_
  refine (Resolving.does_run ends does _).bind (Resolving.yields_run ends _) fun resolved => ?_
  refine (Action.acts_step (.collect _ _)).andThen ?_
  cases T.collect resolved with
  | nil => exact T.does_reduceStage env text tree resolved
  | cons first others => exact (Action.acts_step (.log ..)).andThen (does_pure _)

theorem does_compileWith (T : Toolchain τ ρ σ) (data : Data) (env : Environment)
    {answer : Text → CompileM Verdict} {known : Text → Except Escape Verdict}
    {below : Text → List Event} (ends : ∀ id, (answer id).Yields (known id))
    (does : ∀ id, (answer id).Does (below id)) (text : Text) :
    (T.compileWith data env answer text).Does (T.stagesEvents data env known below text) := by
  refine (Action.acts_step (.parse _)).andThen ?_
  refine (does_ofExcept _).bind (yields_ofExcept _) fun parsed => ?_
  cases parsed with
  | error failure => exact (Action.acts_step (.log ..)).andThen (does_pure _)
  | ok tree => exact T.does_resolveStage data env ends does text tree

/-! ## 4. Scripts by their id -/

/-- The events of a refusal. -/
def refusalEvents (refusal : Refusal) : List Event :=
  .own (.log .warning lookupLogger (refusalNote refusal)) ::
    match refusal with
    | .circular .. => [.own .countCycle]
    | _ => []

/-- The events of a script by its id, without gate and transform.  All of them happen inside of it
or further in. -/
def referenceEvents (T : Toolchain τ ρ σ) (data : Data) (env : Environment) (id : Text) :
    List Event :=
  match h : env.locate id with
  | .error refusal => (refusalEvents refusal).map (Event.inside (env, id))
  | .ok text =>
    have := Environment.pending_descend_lt h
    (.own (.log .debug lookupLogger (enteringNote env id)) ::
      .own (.observeDepth env.ancestry.length) ::
        T.stagesEvents data (env.descend id) (T.verdictOutcome data (env.descend id))
          (fun other => T.referenceEvents data (env.descend id) other) text).map
      (Event.inside (env, id))
termination_by env.pending

/-- The events of a text that has no id. -/
def textEvents (T : Toolchain τ ρ σ) (data : Data) (env : Environment) (text : Text) :
    List Event :=
  T.stagesEvents data env (T.verdictOutcome data env) (T.referenceEvents data env) text

theorem referenceEvents_of_refused (T : Toolchain τ ρ σ) (data : Data) {env : Environment}
    {id : Text} {refusal : Refusal} (h : env.locate id = .error refusal) :
    T.referenceEvents data env id = (refusalEvents refusal).map (Event.inside (env, id)) := by
  rw [referenceEvents]
  split
  · next found => rw [h] at found; cases found; rfl
  · next found => rw [h] at found; cases found

/-- **A script that is handed out is entered, measured, and goes through the stages one level
further down.** -/
theorem referenceEvents_of_located (T : Toolchain τ ρ σ) (data : Data) {env : Environment}
    {id text : Text} (h : env.locate id = .ok text) :
    T.referenceEvents data env id =
      (.own (.log .debug lookupLogger (enteringNote env id)) ::
        .own (.observeDepth env.ancestry.length) ::
          T.textEvents data (env.descend id) text).map (Event.inside (env, id)) := by
  rw [referenceEvents]
  split
  · next found => rw [h] at found; cases found
  · next found => rw [h] at found; cases found; rfl

theorem does_refuse (refusal : Refusal) :
    (refuse refusal : CompileM (Result τ ρ σ)).Does (refusalEvents refusal) := by
  refine (Action.acts_step (.log ..)).andThen ?_
  cases refusal with
  | circular id ancestry => exact (Action.acts_step .countCycle).andThen (does_pure _)
  | unknown id => exact does_pure _
  | tooDeep id ancestry ceiling => exact does_pure _

/-- **A script by its id does its events in all surroundings.** -/
theorem does_compileReference (T : Toolchain τ ρ σ) (data : Data) (env : Environment)
    (id : Text) :
    (T.compileReference data env id).Does (T.referenceEvents data env id) := by
  -- The recursion goes down the scripts that are not in the ancestry.
  induction hp : env.pending using Nat.strongRecOn generalizing env id with
  | ind pending ih =>
    rw [compileReference]
    split
    · next refusal found =>
      rw [T.referenceEvents_of_refused data found]
      exact (does_refuse refusal).within env id
    · next text found =>
      rw [T.referenceEvents_of_located data found]
      refine Does.within ?_ env id
      refine (Action.acts_step (.log ..)).andThen ?_
      refine (Action.acts_step (.observeDepth _)).andThen ?_
      refine T.does_compileWith data _ (fun other => ?_) (fun other => Does.map ?_ _) text
      · exact (T.yields_compileReference data _ other).map Result.verdict
      · exact ih _ (hp ▸ Environment.pending_descend_lt found) (env.descend id) other rfl

theorem does_compileText (T : Toolchain τ ρ σ) (data : Data) (env : Environment) (text : Text) :
    (T.compileText data env text).Does (T.textEvents data env text) :=
  T.does_compileWith data env
    (fun id => (T.yields_compileReference data env id).map Result.verdict)
    (fun id => (T.does_compileReference data env id).map Result.verdict) text

/-! ## 5. Gate and transform -/

/-- The events of the check of a digest. -/
def lockEvents (T : Toolchain τ ρ σ) (env : Environment) (locking : Bytes) : List Event :=
  T.referenceEvents (lockData locking) (lockEnvironment env) digestLockId

/-- The events of an unlocking script with a push of the locking script. -/
def unlockEvents (T : Toolchain τ ρ σ) (env : Environment) (unlocking locking : Bytes) :
    List Event :=
  T.referenceEvents (unlockData unlocking locking) (unlockEnvironment env) digestUnlockId

/-- The events that complete an unlocking script, once the locking script is compiled. -/
def completedEvents (T : Toolchain τ ρ σ) (env : Environment) (raw : Success τ ρ σ) :
    Result τ ρ σ → List Event
  | .failure _ => []
  | .success locking => T.unlockEvents env raw.bytecode locking.bytecode

/-- The events of the transform that a script's classification calls for. -/
def transformEvents (T : Toolchain τ ρ σ) (data : Data) (env : Environment) (id : Text)
    (raw : Success τ ρ σ) : List Event :=
  if env.lockingType id = .p2sh then
    .own (.log .debug transformLogger (wrappingNote id)) :: T.lockEvents env raw.bytecode
  else
    match digestLockOf? env id with
    | none => []
    | some lockingId =>
      .own (.log .debug transformLogger (completingNote id lockingId)) ::
        (T.referenceEvents data env lockingId ++
          onReturn (T.referenceOutcome data env lockingId) (T.completedEvents env raw))

/-- The events after the gate, once the script is compiled. -/
def compiledEvents (T : Toolchain τ ρ σ) (data : Data) (env : Environment) (id : Text) :
    Result τ ρ σ → List Event
  | .failure _ => []
  | .success raw => T.transformEvents data env id raw

/-- The events of a script by its id, with gate and transform. -/
def gatedEvents (T : Toolchain τ ρ σ) (data : Data) (env : Environment) (id : Text) :
    List Event :=
  match locktimeMismatch? data env id with
  | some mismatch => [.own (.log .warning transformLogger mismatch.note)]
  | none =>
    T.referenceEvents data env id ++
      onReturn (T.referenceOutcome data env id) (T.compiledEvents data env id)

theorem does_applyTransform (T : Toolchain τ ρ σ) (data : Data) (env : Environment) (id : Text)
    (raw : Success τ ρ σ) :
    (T.applyTransform data env id raw).Does (T.transformEvents data env id raw) := by
  unfold applyTransform transformEvents
  by_cases locks : env.lockingType id = .p2sh
  · rw [if_pos locks, if_pos locks]
    exact (Action.acts_step (.log ..)).andThen ((T.does_compileReference _ _ _).map _)
  · rw [if_neg locks, if_neg locks]
    cases digestLockOf? env id with
    | none => exact does_pure _
    | some lockingId =>
      refine (Action.acts_step (.log ..)).andThen ?_
      refine (T.does_compileReference data env lockingId).bind
        (T.yields_compileReference data env lockingId) fun result => ?_
      cases result with
      | failure outcome => exact does_pure _
      | success locking => exact (T.does_compileReference _ _ _).map _

theorem does_compileGated (T : Toolchain τ ρ σ) (data : Data) (env : Environment) (id : Text) :
    (T.compileGated data env id).Does (T.gatedEvents data env id) := by
  unfold compileGated gatedEvents checkLocktime
  cases locktimeMismatch? data env id with
  | some mismatch => exact (Action.acts_step (.log ..)).andThen (does_pure _)
  | none =>
    refine (T.does_compileReference data env id).bind
      (T.yields_compileReference data env id) fun result => ?_
    cases result with
    | failure outcome => exact does_pure _
    | success raw => exact T.does_applyTransform data env id raw

end Toolchain

/-! ## 6. What events there are -/

/-- What the stages of a text do themselves. -/
inductive StageAction (env : Environment) (text : Text) : Action → Prop
  | parse : StageAction env text (.parse text)
  | createResolver : StageAction env text (.createResolver env.ancestry)
  | resolve : StageAction env text (.resolve text)
  | collect (errors : Nat) : StageAction env text (.collect text errors)
  | reduce : StageAction env text (.reduce text env.capabilities)
  | log (message : Text) : StageAction env text (.log .debug Toolchain.stageLogger message)

/-- **What is done in a call itself**: it is refused, or it is entered and its text goes through the
stages. -/
inductive CallAction : Call → Action → Prop
  | refused {env : Environment} {id : Text} {refusal : Refusal}
    (refused : env.locate id = .error refusal) :
    CallAction (env, id) (.log .warning Toolchain.lookupLogger (Toolchain.refusalNote refusal))
  | counted {env : Environment} {id other : Text} {ancestry : List Text}
    (refused : env.locate id = .error (.circular other ancestry)) :
    CallAction (env, id) .countCycle
  | entered {env : Environment} {id text : Text} (located : env.locate id = .ok text) :
    CallAction (env, id) (.log .debug Toolchain.lookupLogger (Toolchain.enteringNote env id))
  | measured {env : Environment} {id text : Text} (located : env.locate id = .ok text) :
    CallAction (env, id) (.observeDepth env.ancestry.length)
  | stage {env : Environment} {id text : Text} {action : Action}
    (located : env.locate id = .ok text) (acts : StageAction (env.descend id) text action) :
    CallAction (env, id) action

theorem Resolving.mem_events {α : Type} {known : Text → Except Escape Verdict}
    {below : Text → List Event} {r : Resolving α} {event : Event}
    (h : event ∈ r.events known below) : ∃ id, r.Asks id ∧ event ∈ below id := by
  induction r with
  | done value => cases h
  | fail escape => cases h
  | reference id next ih =>
    rcases List.mem_append.mp h with now | later
    · exact ⟨id, .now, now⟩
    · obtain ⟨verdict, -, later⟩ := mem_onReturn.mp later
      obtain ⟨other, asks, member⟩ := ih verdict later
      exact ⟨other, .later verdict asks, member⟩

namespace Toolchain

variable {τ ρ σ : Type} {T : Toolchain τ ρ σ} {data : Data} {env : Environment} {id text : Text}
  {event : Event}

theorem mem_refusalEvents {refusal : Refusal} (refused : env.locate id = .error refusal)
    (h : event ∈ refusalEvents refusal) :
    event.place = none ∧ CallAction (env, id) event.action := by
  rcases List.mem_cons.mp h with rfl | h
  · exact ⟨rfl, .refused refused⟩
  · cases refusal with
    | unknown id => cases h
    | tooDeep id ancestry ceiling => cases h
    | circular id ancestry =>
      cases List.mem_singleton.mp h
      exact ⟨rfl, .counted refused⟩

theorem mem_reduceEvents {resolved : ρ} (h : event ∈ T.reduceEvents env text resolved) :
    event.place = none ∧ StageAction env text event.action := by
  rcases List.mem_cons.mp h with rfl | h
  · exact ⟨rfl, .reduce⟩
  · obtain ⟨reduction, -, h⟩ := mem_onReturn.mp h
    cases reduction with
    | bytecode bytecode states => cases h
    | errors first others states =>
      cases List.mem_singleton.mp h
      exact ⟨rfl, .log _⟩

theorem mem_resolvedEvents {resolved : ρ} (h : event ∈ T.resolvedEvents env text resolved) :
    event.place = none ∧ StageAction env text event.action := by
  rcases List.mem_cons.mp h with rfl | h
  · exact ⟨rfl, .collect _⟩
  · split at h
    · exact mem_reduceEvents h
    · cases List.mem_singleton.mp h
      exact ⟨rfl, .log _⟩

/-- **The events of a text are those of its stages, and of the scripts that it mentions.** -/
theorem mem_stagesEvents {known : Text → Except Escape Verdict} {below : Text → List Event}
    (h : event ∈ T.stagesEvents data env known below text) :
    (event.place = none ∧ StageAction env text event.action) ∨
      ∃ id, T.Mentions data env text id ∧ event ∈ below id := by
  rcases List.mem_cons.mp h with rfl | h
  · exact .inl ⟨rfl, .parse⟩
  obtain ⟨verdict, parsed, h⟩ := mem_onReturn.mp h
  cases verdict with
  | error failure =>
    cases List.mem_singleton.mp h
    exact .inl ⟨rfl, .log _⟩
  | ok tree =>
    rcases List.mem_cons.mp h with rfl | h
    · exact .inl ⟨rfl, .createResolver⟩
    rcases List.mem_cons.mp h with rfl | h
    · exact .inl ⟨rfl, .resolve⟩
    rcases List.mem_append.mp h with h | h
    · obtain ⟨id, asks, member⟩ := Resolving.mem_events h
      exact .inr ⟨id, ⟨tree, parsed, asks⟩, member⟩
    · obtain ⟨resolved, -, h⟩ := mem_onReturn.mp h
      exact .inl (mem_resolvedEvents h)

/-- **Everything that a script does is done in a call that it leads to.** -/
theorem mem_referenceEvents (h : event ∈ T.referenceEvents data env id) :
    ∃ call, event.place = some call ∧ T.Visits data (env, id) call ∧
      CallAction call event.action := by
  induction hp : env.pending using Nat.strongRecOn generalizing env id event with
  | ind pending ih =>
    cases located : env.locate id with
    | error refusal =>
      rw [T.referenceEvents_of_refused data located] at h
      obtain ⟨own, member, rfl⟩ := List.mem_map.mp h
      obtain ⟨place, acts⟩ := mem_refusalEvents located member
      exact ⟨(env, id), Event.place_inside_of_none place, .refl, acts⟩
    | ok text =>
      rw [T.referenceEvents_of_located data located] at h
      obtain ⟨own, member, rfl⟩ := List.mem_map.mp h
      rcases List.mem_cons.mp member with rfl | member
      · exact ⟨(env, id), rfl, .refl, .entered located⟩
      rcases List.mem_cons.mp member with rfl | member
      · exact ⟨(env, id), rfl, .refl, .measured located⟩
      rcases mem_stagesEvents member with ⟨place, acts⟩ | ⟨other, mentions, member⟩
      · exact ⟨(env, id), Event.place_inside_of_none place, .refl, .stage located acts⟩
      · obtain ⟨call, place, visits, acts⟩ :=
          ih _ (hp ▸ Environment.pending_descend_lt located) member rfl
        exact ⟨call, Event.place_inside_of_some place, .head (.intro located mentions) visits, acts⟩

end Toolchain

/-! ## 7. Requests -/

namespace Request

variable {τ ρ σ : Type}

/-- The events of a request. -/
def events (T : Toolchain τ ρ σ) (data : Data) (env : Environment) : Request → List Event
  | .script id => T.gatedEvents data env id
  | .reference id => T.referenceEvents data env id
  | .body text => T.textEvents data env text

/-- **The calls that a request starts**, and the data for them.  A script with gate and transform
may start three: itself, the script that it unlocks, and a wrapper with data of its own. -/
inductive Starts (T : Toolchain τ ρ σ) (data : Data) (env : Environment) :
    Request → Data → Call → Prop
  | reference {id : Text} : Starts T data env (.reference id) data (env, id)
  | mentioned {text id : Text} (mentions : T.Mentions data env text id) :
    Starts T data env (.body text) data (env, id)
  | script {id : Text} (passes : Toolchain.locktimeMismatch? data env id = none) :
    Starts T data env (.script id) data (env, id)
  | lock {id : Text} {raw : Success τ ρ σ}
    (compiled : T.referenceOutcome data env id = .ok (.success raw))
    (locks : env.lockingType id = .p2sh) :
    Starts T data env (.script id) (Toolchain.lockData raw.bytecode)
      (Toolchain.lockEnvironment env, Toolchain.digestLockId)
  | unlocked {id lockingId : Text} {raw : Success τ ρ σ}
    (compiled : T.referenceOutcome data env id = .ok (.success raw))
    (pairs : Toolchain.digestLockOf? env id = some lockingId) :
    Starts T data env (.script id) data (env, lockingId)
  | unlock {id lockingId : Text} {raw locking : Success τ ρ σ}
    (compiled : T.referenceOutcome data env id = .ok (.success raw))
    (pairs : Toolchain.digestLockOf? env id = some lockingId)
    (unlocked : T.referenceOutcome data env lockingId = .ok (.success locking)) :
    Starts T data env (.script id) (Toolchain.unlockData raw.bytecode locking.bytecode)
      (Toolchain.unlockEnvironment env, Toolchain.digestUnlockId)

/-- What a request does outside of all calls. -/
inductive OwnAction (env : Environment) : Request → Action → Prop
  | stage {text : Text} {action : Action} (acts : StageAction env text action) :
    OwnAction env (.body text) action
  | gate {id : Text} (mismatch : Toolchain.LocktimeMismatch) :
    OwnAction env (.script id) (.log .warning Toolchain.transformLogger mismatch.note)
  | transform {id : Text} (message : Text) :
    OwnAction env (.script id) (.log .debug Toolchain.transformLogger message)

variable {T : Toolchain τ ρ σ} {data : Data} {env : Environment} {request : Request}
  {event : Event}

/-- An event that is done in a call which a request leads to. -/
def Leads (T : Toolchain τ ρ σ) (data : Data) (env : Environment) (request : Request)
    (event : Event) : Prop :=
  ∃ given start call, request.Starts T data env given start ∧ event.place = some call ∧
    T.Visits given start call ∧ CallAction call event.action

theorem Starts.leads {given : Data} {inner : Environment} {id : Text}
    (starts : request.Starts T data env given (inner, id))
    (h : event ∈ T.referenceEvents given inner id) : request.Leads T data env event := by
  obtain ⟨call, place, visits, acts⟩ := Toolchain.mem_referenceEvents h
  exact ⟨given, (inner, id), call, starts, place, visits, acts⟩

theorem mem_transformEvents {id : Text} {raw : Success τ ρ σ}
    (compiled : T.referenceOutcome data env id = .ok (.success raw))
    (h : event ∈ T.transformEvents data env id raw) :
    (event.place = none ∧ OwnAction env (.script id) event.action) ∨
      (Request.script id).Leads T data env event := by
  unfold Toolchain.transformEvents at h
  split at h
  · next locks =>
    rcases List.mem_cons.mp h with rfl | h
    · exact .inl ⟨rfl, .transform _⟩
    · exact .inr ((Starts.lock compiled locks).leads h)
  · split at h
    · cases h
    · next lockingId pairs =>
      rcases List.mem_cons.mp h with rfl | h
      · exact .inl ⟨rfl, .transform _⟩
      rcases List.mem_append.mp h with h | h
      · exact .inr ((Starts.unlocked compiled pairs).leads h)
      obtain ⟨result, unlocked, h⟩ := mem_onReturn.mp h
      cases result with
      | failure outcome => cases h
      | success locking => exact .inr ((Starts.unlock compiled pairs unlocked).leads h)

/-- **Everything that a request does is done outside of all calls, or in a call that it leads
to.** -/
theorem mem_events (h : event ∈ request.events T data env) :
    (event.place = none ∧ request.OwnAction env event.action) ∨
      request.Leads T data env event := by
  cases request with
  | reference id => exact .inr (Starts.reference.leads h)
  | body text =>
    rcases Toolchain.mem_stagesEvents h with ⟨place, acts⟩ | ⟨id, mentions, h⟩
    · exact .inl ⟨place, .stage acts⟩
    · exact .inr ((Starts.mentioned mentions).leads h)
  | script id =>
    replace h : event ∈ T.gatedEvents data env id := h
    unfold Toolchain.gatedEvents at h
    split at h
    · next mismatch _ =>
      cases List.mem_singleton.mp h
      exact .inl ⟨rfl, .gate mismatch⟩
    · next passes =>
      rcases List.mem_append.mp h with h | h
      · exact .inr ((Starts.script passes).leads h)
      obtain ⟨result, compiled, h⟩ := mem_onReturn.mp h
      cases result with
      | failure outcome => cases h
      | success raw => exact mem_transformEvents compiled h

end Request

/-! ## 8. Top-level compilations -/

namespace Ambient

/-- The id that a top-level compilation works under: the one that is set, or a fresh one. -/
def workingId (ambient : Ambient) : Text :=
  (normalizedId ambient.trace.compilationId).getD (ambient.host.freshId (ambient.drawn + 1))

/-- The number of ids drawn once a top-level compilation has its id. -/
def drawnThen (ambient : Ambient) : Nat :=
  if (normalizedId ambient.trace.compilationId).isSome then ambient.drawn else ambient.drawn + 1

/-- The surroundings that a top-level compilation works in: it has its id, and has read the clock
once. -/
def begun (ambient : Ambient) : Ambient :=
  { ambient with
    trace := ambient.trace.withCompilationId (some ambient.workingId)
    drawn := ambient.drawnThen
    readings := ambient.readings + 1 }

/-- The surroundings after the report of an outcome, the clock having been read again. -/
def reported {τ ρ σ : Type} (ambient : Ambient) (id : Text) (seconds : Float)
    (result : Result τ ρ σ) : Ambient :=
  ({ ambient with
      readings := ambient.readings + 1
      metrics := ambient.metrics.record result.label (.float seconds)
        (result.transform?.map Vocabulary.word) } : Ambient).after
    [.own (.log .info Toolchain.outcomeLogger (Toolchain.outcomeNote id result))]

/-- How long a top-level compilation takes: it reads the clock twice. -/
def duration (ambient : Ambient) : Float :=
  ambient.host.clock (ambient.readings + 1) - ambient.host.clock ambient.readings

end Ambient

theorem CompileM.run_compilationId (ambient : Ambient) :
    compilationId.run ambient =
      (.ok ambient.workingId, { ambient with drawn := ambient.drawnThen }) := by
  cases h : normalizedId ambient.trace.compilationId with
  | some id =>
    simp [compilationId, CompileM.run, Ambient.workingId, Ambient.drawnThen, h]
  | none =>
    simp [compilationId, CompileM.run, Ambient.workingId, Ambient.drawnThen, h]

namespace Toolchain

variable {τ ρ σ : Type}

theorem run_reportOutcome (id : Text) (seconds : Float) (result : Result τ ρ σ)
    (ambient : Ambient) :
    (reportOutcome id seconds result).run ambient =
      (.ok (), ({ ambient with
          metrics := ambient.metrics.record result.label (.float seconds)
            (result.transform?.map Vocabulary.word) } : Ambient).after
        [.own (.log .info outcomeLogger (outcomeNote id result))]) :=
  Action.acts_step (.log .info outcomeLogger (outcomeNote id result)) _

/-- **The whole of a top-level compilation.**  It does its events under one id, then reports its
outcome if it has one, and puts the trace back either way. -/
theorem run_compile (T : Toolchain τ ρ σ) (data : Data) (env : Environment) (id : Text)
    (ambient : Ambient) :
    (T.compile data env id).run ambient =
      (T.scriptOutcome data env id,
        { (match T.scriptOutcome data env id with
            | .error _ => ambient.begun.after (T.gatedEvents data env id)
            | .ok result => (ambient.begun.after (T.gatedEvents data env id)).reported id
                ambient.duration result) with
          trace := ambient.trace }) := by
  have gated : (T.compileGated data env id).run ambient.begun =
      (T.scriptOutcome data env id, ambient.begun.after (T.gatedEvents data env id)) :=
    Prod.ext (T.yields_compileGated data env id _) (T.does_compileGated data env id _)
  -- With its id drawn and the clock read, the compilation stands in `begun`.
  have timed : (T.compile data env id).run ambient =
      let ended := (T.compileGated data env id >>= fun result => do
        let finished ← readClock
        reportOutcome id (finished - ambient.host.clock ambient.readings) result
        return result).run ambient.begun
      (ended.1, { ended.2 with trace := ambient.trace }) := by
    unfold compile
    rw [CompileM.run_bind, run_compilationId]
    rfl
  rw [timed, CompileM.run_bind, gated]
  cases T.scriptOutcome data env id with
  | error escape => rfl
  | ok result =>
    have reports (before : Ambient) (started : Float) :
        ((do
          let finished ← readClock
          reportOutcome id (finished - started) result
          return result : CompileM (Result τ ρ σ)).run before) =
        (.ok result, before.reported id (before.host.clock before.readings - started) result) := by
      show ((reportOutcome id (before.host.clock before.readings - started) result >>= fun _ =>
        pure result).run { before with readings := before.readings + 1 }) = _
      rw [CompileM.run_bind, run_reportOutcome]
      rfl
    dsimp only
    rw [reports]
    rfl

end Toolchain

end ScriptTemplate
