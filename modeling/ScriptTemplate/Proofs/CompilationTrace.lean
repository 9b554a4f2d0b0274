/-
# What is seen of the trace

The trace is one slot that every script narrows while it is compiled, down any number of levels, and
that has to be as it was once a compilation is over.  `Chronicle` gives each event the innermost
script in which it happens; this file reads off what the events see.

* **The trace is put back** however a compilation ends (`leaves_perform`), and an id is drawn at
  most once, at the top.
* **A parse call sees its own script** (`Request.parses`): the id of the innermost call, and as
  depth the length of the ancestry that this call was given.  That ancestry is EMPTY again in the wrappers
  of a transform, so the depth does not count the levels of the recursion.
* **There is one record of the level of outcomes** in a top-level compilation, and it is the last
  one: all events before the report log at other levels (`level_of_mem_events`).

`Request.perform_traced` puts these together for the three ways into the compiler.
-/
import Mathlib
import ScriptTemplate.Proofs.Chronicle
import ScriptTemplate.Proofs.StandardStages

namespace ScriptTemplate

/-! ## 1. Parse calls -/

/-- The text of a parse call, and the trace that it saw. -/
def StageCall.parsed? : StageCall → Option (Text × Trace)
  | .parse text trace => some (text, trace)
  | _ => none

/-- The text of a parse event, and the innermost script in which it is parsed. -/
def Event.parsed? (event : Event) : Option (Option Call × Text) :=
  match event.action with
  | .parse text => some (event.place, text)
  | _ => none

/-- The trace in a script, or outside of all scripts. -/
def Trace.seenFrom (around : Trace) : Option Call → Trace
  | none => around
  | some (env, id) => ⟨around.compilationId, .str id, .int env.ancestry.length⟩

theorem Event.trace_eq_seenFrom (around : Trace) (event : Event) :
    event.trace around = around.seenFrom event.place := by
  obtain ⟨_ | ⟨env, id⟩, action⟩ := event <;> rfl

/-- Every event sees the compilation id of the whole. -/
theorem Event.compilationId_trace (around : Trace) (event : Event) :
    (event.trace around).compilationId = around.compilationId := by
  rw [event.trace_eq_seenFrom]
  rcases event.place with _ | ⟨env, id⟩ <;> rfl

theorem Event.stageCall?_bind_parsed? (around : Trace) (event : Event) :
    (event.stageCall? around).bind StageCall.parsed? =
      event.parsed?.map fun (place, text) => (text, around.seenFrom place) := by
  obtain ⟨place, action⟩ := event
  cases action with
  | parse text =>
    simp only [Event.stageCall?, Event.parsed?, Option.bind_some, Option.map_some,
      StageCall.parsed?, Event.trace_eq_seenFrom]
  | _ => rfl

namespace Request

variable {τ ρ σ : Type}

/-- The texts that a request parses, each with the innermost script in which it does. -/
def parses (T : Toolchain τ ρ σ) (data : Data) (env : Environment) (request : Request) :
    List (Option Call × Text) :=
  (request.events T data env).filterMap Event.parsed?

/-- The trace around all scripts of a request. -/
def around (ambient : Ambient) : Request → Trace
  | .script _ => ambient.begun.trace
  | .reference _ | .body _ => ambient.trace

/-- The ids drawn once a request is done. -/
def drawn (ambient : Ambient) : Request → Nat
  | .script _ => ambient.drawnThen
  | .reference _ | .body _ => ambient.drawn

/-- The report of an outcome, if a request makes one. -/
def report (T : Toolchain τ ρ σ) (data : Data) (env : Environment) : Request → List Event
  | .script id => onReturn (T.scriptOutcome data env id) fun result =>
    [.own (.log .info Toolchain.outcomeLogger (Toolchain.outcomeNote id result))]
  | .reference _ | .body _ => []

/-! ## 2. What a request leaves -/

/-- **What a request leaves.**  The trace is as before; the journal and the log have grown by what
its events and its report leave under the trace around them. -/
structure Leaves (T : Toolchain τ ρ σ) (data : Data) (env : Environment) (request : Request)
    (before after : Ambient) : Prop where
  trace : after.trace = before.trace
  drawn : after.drawn = request.drawn before
  journal : after.journal = before.journal ++
    (request.events T data env).filterMap (Event.stageCall? (request.around before))
  lines : after.lines = before.lines ++
    (request.events T data env ++ request.report T data env).filterMap
      (Event.line? before.sink (request.around before))

theorem leaves_perform (T : Toolchain τ ρ σ) (data : Data) (env : Environment) (request : Request)
    (ambient : Ambient) :
    request.Leaves T data env ambient ((request.perform T data env).run ambient).2 := by
  cases request with
  | reference id =>
    rw [perform, T.does_compileReference data env id ambient]
    refine ⟨rfl, rfl, rfl, ?_⟩
    rw [report, List.append_nil]
    rfl
  | body text =>
    rw [perform, T.does_compileText data env text ambient]
    refine ⟨rfl, rfl, rfl, ?_⟩
    rw [report, List.append_nil]
    rfl
  | script id =>
    rw [perform, T.run_compile data env id ambient]
    cases ended : T.scriptOutcome data env id with
    | error escape =>
      refine ⟨rfl, rfl, rfl, ?_⟩
      rw [report, ended, onReturn, List.append_nil]
      rfl
    | ok result =>
      refine ⟨rfl, rfl, ?_, ?_⟩
      · -- The report is no stage call.
        exact List.append_nil _
      · rw [report, ended, List.filterMap_append, ← List.append_assoc]
        rfl

/-! ## 3. What is seen on the way -/

variable {T : Toolchain τ ρ σ} {data : Data} {env : Environment} {request : Request}

/-- **Where a request may parse a text**: in the call that hands it out, if the request leads to
that call; or outside of all calls, if it is the text that the request is about. -/
def ParsesIn (T : Toolchain τ ρ σ) (data : Data) (env : Environment) (request : Request)
    (text : Text) : Option Call → Prop
  | none => request = .body text
  | some call => call.1.locate call.2 = .ok text ∧
    ∃ given start, request.Starts T data env given start ∧ T.Visits given start call

theorem parsesIn_of_mem {place : Option Call} {text : Text}
    (h : (place, text) ∈ request.parses T data env) :
    request.ParsesIn T data env text place := by
  obtain ⟨⟨place, action⟩, member, parsed⟩ := List.mem_filterMap.mp h
  cases action with
  | parse text =>
    cases parsed
    rcases mem_events member with ⟨rfl, acts⟩ | ⟨given, start, call, starts, rfl, visits, acts⟩
    · cases acts with
      | stage acts => cases acts; rfl
    · refine ⟨?_, given, start, starts, visits⟩
      cases acts with
      | stage located acts => cases acts; exact located
  | _ => cases parsed

theorem parsed?_journal (around : Trace) :
    ((request.events T data env).filterMap (Event.stageCall? around)).filterMap
        StageCall.parsed? =
      (request.parses T data env).map fun (place, text) => (text, around.seenFrom place) := by
  rw [parses, List.filterMap_filterMap, List.map_filterMap]
  exact List.filterMap_congr fun event _ => event.stageCall?_bind_parsed? around

/-- **On the way only details and warnings are logged.** -/
theorem level_of_mem_events {place : Option Call} {level : Log.Level} {logger message : Text}
    (h : ⟨place, .log level logger message⟩ ∈ request.events T data env) :
    level = .debug ∨ level = .warning := by
  rcases mem_events h with ⟨-, acts⟩ | ⟨_, _, _, -, -, -, acts⟩
  · cases acts with
    | stage acts => cases acts; exact .inl rfl
    | gate mismatch => exact .inr rfl
    | transform message => exact .inl rfl
  · cases acts with
    | refused refused => exact .inr rfl
    | entered located => exact .inl rfl
    | stage located acts => cases acts; exact .inl rfl

end Request

/-- What a line that an event leaves is made of. -/
theorem Event.of_line? {sink : Option Log.Sink} {around : Trace} {event : Event} {line : Log.Line}
    (h : event.line? sink around = some line) :
    ∃ level logger message, event.action = .log level logger message ∧
      line.record.label = .str level.name ∧
      line.record.origin = Log.Origin.ofTrace (event.trace around) := by
  obtain ⟨place, action⟩ := event
  cases action with
  | log level logger message =>
    obtain ⟨sink, -, h⟩ := Option.bind_eq_some_iff.mp h
    unfold Log.Sink.line? at h
    split at h
    · cases h
      exact ⟨level, logger, message, rfl, rfl, rfl⟩
    · cases h
  | _ => cases h

/-- A record whose level passes leaves its line. -/
theorem Event.filterMap_line?_own {sink : Log.Sink} {around : Trace} {level : Log.Level}
    {logger message : Text} (passes : level.passes sink.threshold) :
    [Event.own (.log level logger message)].filterMap (Event.line? (some sink) around) =
      [⟨sink.layout, {
        template := .str message
        label := .str level.name
        logger := .str (Log.loggerName logger)
        origin := Log.Origin.ofTrace around }⟩] := by
  simp [Event.own, Event.line?, Event.trace, Log.Sink.line?, passes]

theorem normalizedId_normalizedId {id : Option Text} {set : Text}
    (h : normalizedId id = some set) : normalizedId (some set) = some set := by
  cases id with
  | none => cases h
  | some text =>
    unfold normalizedId at h
    dsimp only at h
    split at h
    · cases h
    · next solid =>
      cases h
      exact if_neg solid

/-! ## 4. The trace of a request -/

/-- **Which compilation id a request works under.**  A top-level compilation takes the id that is
set, or else draws exactly one; an empty id counts as none.  Other requests leave the id as it
is. -/
def Request.WorksUnder (request : Request) (before after : Ambient) (id : Option Text) : Prop :=
  match request, normalizedId before.trace.compilationId with
  | .script _, some set => id = some set ∧ after.drawn = before.drawn
  | .script _, none =>
    id = normalizedId (some (before.host.freshId (before.drawn + 1))) ∧
      after.drawn = before.drawn + 1
  | _, _ => id = before.trace.compilationId ∧ after.drawn = before.drawn

/-- **What a request does with the trace.** -/
structure Request.Traced {τ ρ σ : Type} (T : Toolchain τ ρ σ) (data : Data) (env : Environment)
    (request : Request) (before : Ambient) (outcome : Except Escape (Result τ ρ σ))
    (after : Ambient) : Prop where
  restored : after.trace = before.trace
  /-- All parse calls and all log lines see one compilation id, and a parse call sees the id and the
  depth of the innermost script. -/
  seen : ∃ id calls lines, request.WorksUnder before after id ∧
    after.journal = before.journal ++ calls ∧ after.lines = before.lines ++ lines ∧
    calls.filterMap StageCall.parsed? = (request.parses T data env).map (fun
      | (none, text) => (text, { before.trace with compilationId := id })
      | (some (inner, name), text) => (text, ⟨id, .str name, .int inner.ancestry.length⟩)) ∧
    ∀ line ∈ lines, line.record.origin.compilationId = .str ((normalizedId id).getD Log.noId)
  /-- The innermost script is the one whose text is parsed. -/
  innermost : ∀ place text, (place, text) ∈ request.parses T data env →
    request.ParsesIn T data env text place
  /-- The last line is the outcome, and the only one of its level. -/
  reported : ∀ name result sink, request = .script name → outcome = .ok result →
    before.sink = some sink → Log.Level.info.passes sink.threshold →
    ∃ earlier last, after.lines = before.lines ++ earlier ++ [last] ∧
      last.record.label = .str Log.Level.info.name ∧
      last.record.template = .str (Toolchain.outcomeNote name result) ∧
      last.record.origin.scriptId = before.trace.scriptId ∧
      last.record.origin.depth = before.trace.depth ∧
      ∀ line ∈ earlier, line.record.label ≠ .str Log.Level.info.name

namespace Request

variable {τ ρ σ : Type} {T : Toolchain τ ρ σ} {data : Data} {env : Environment}
  {request : Request}

theorem worksUnder_around {before after : Ambient} (drawn : after.drawn = request.drawn before) :
    request.WorksUnder before after (request.around before).compilationId := by
  cases request with
  | reference id => exact ⟨rfl, drawn⟩
  | body text => exact ⟨rfl, drawn⟩
  | script id =>
    unfold WorksUnder
    cases given : normalizedId before.trace.compilationId with
    | some set =>
      have same : before.workingId = set := by simp [Ambient.workingId, given]
      refine ⟨?_, drawn.trans (by simp [Request.drawn, Ambient.drawnThen, given])⟩
      show normalizedId (some before.workingId) = some set
      rw [same, normalizedId_normalizedId given]
    | none =>
      have fresh : before.workingId = before.host.freshId (before.drawn + 1) := by
        simp [Ambient.workingId, given]
      refine ⟨?_, drawn.trans (by simp [Request.drawn, Ambient.drawnThen, given])⟩
      show normalizedId (some before.workingId) = _
      rw [fresh]

/-- The trace around a request differs from the one before it in the compilation id alone. -/
theorem around_eq (ambient : Ambient) (request : Request) :
    request.around ambient =
      { ambient.trace with compilationId := (request.around ambient).compilationId } := by
  cases request <;> rfl

/-- **Every request traces its work, and puts the trace back.** -/
theorem perform_traced (T : Toolchain τ ρ σ) (data : Data) (env : Environment)
    (request : Request) (ambient : Ambient) :
    request.Traced T data env ambient ((request.perform T data env).run ambient).1
      ((request.perform T data env).run ambient).2 := by
  have leaves := request.leaves_perform T data env ambient
  refine ⟨leaves.trace, ?_, fun _ _ => parsesIn_of_mem, ?_⟩
  · refine ⟨_, _, _, worksUnder_around leaves.drawn, leaves.journal, leaves.lines, ?_, ?_⟩
    · rw [parsed?_journal]
      refine List.map_congr_left ?_
      rintro ⟨_ | ⟨inner, name⟩, text⟩ -
      · exact congrArg (text, ·) (around_eq ambient request)
      · rfl
    · intro line member
      obtain ⟨event, -, left⟩ := List.mem_filterMap.mp member
      obtain ⟨_, _, _, -, -, origin⟩ := event.of_line? left
      rw [origin, Log.Origin.ofTrace, event.compilationId_trace]
  · rintro name result sink rfl returned given passes
    have ended := (T.yields_compile data env name).eq_of_run returned
    have report : (Request.script name).report T data env =
        [.own (.log .info Toolchain.outcomeLogger (Toolchain.outcomeNote name result))] := by
      rw [Request.report, ended]
      rfl
    have lines := leaves.lines
    rw [report, List.filterMap_append, ← List.append_assoc, given] at lines
    rw [Event.filterMap_line?_own passes] at lines
    refine ⟨_, _, lines, rfl, rfl, rfl, rfl, ?_⟩
    intro line member info
    obtain ⟨⟨place, action⟩, happens, left⟩ := List.mem_filterMap.mp member
    obtain ⟨level, logger, message, rfl, label, -⟩ := Event.of_line? left
    -- The names of the levels differ.
    have named : level.name = Log.Level.info.name := Json.str.inj (label.symm.trans info)
    rcases level_of_mem_events happens with rfl | rfl
    · exact absurd named (by decide)
    · exact absurd named (by decide)

/-- A script that refers to another. -/
def nestedEnvironment : Environment where
  scripts := [("outer", some "inner OP_1"), ("inner", some "0x51")]

theorem parses_nestedEnvironment :
    (Request.script "outer").parses Toolchain.standard {} nestedEnvironment =
      [(some (nestedEnvironment, ("outer" : Text)), ("inner OP_1" : Text)),
        (some (nestedEnvironment.descend "outer", ("inner" : Text)), ("0x51" : Text))] := by
  cbv

theorem outcome_nestedEnvironment :
    ∃ raw, Toolchain.standard.scriptOutcome {} nestedEnvironment "outer" = .ok (.success raw) := by
  have compiled : ∃ raw, Toolchain.standard.referenceOutcome {} nestedEnvironment "outer" =
      .ok (.success raw) ∧ raw.bytecode = [0x51, 0x51] :=
    Toolchain.map_verdict_eq_ok_iff.mp (by cbv)
  obtain ⟨raw, outcome, -⟩ := compiled
  exact ⟨raw, Toolchain.scriptOutcome_of_success (by decide) outcome⟩

/-- Surroundings without a compilation id, in the middle of other work, with outcomes logged. -/
def watchedAmbient : Ambient where
  host := ⟨fun _ => 0, fun _ => "fresh", ""⟩
  trace := { scriptId := .str "job", depth := .int 7 }
  sink := some { threshold := .info }

/-- Two scripts are parsed at their depths under one fresh id, and the outcome is logged where the
compilation was asked for. -/
theorem perform_traced_nested :
    let after := ((Toolchain.standard.compile {} nestedEnvironment "outer").run watchedAmbient).2
    after.trace = watchedAmbient.trace ∧ after.drawn = 1 ∧
    after.journal.filterMap StageCall.parsed? =
      [(("inner OP_1" : Text), ⟨some "fresh", .str "outer", .int 0⟩),
        (("0x51" : Text), ⟨some "fresh", .str "inner", .int 1⟩)] ∧
    ∃ earlier last, after.lines = earlier ++ [last] ∧
      last.record.label = .str Log.Level.info.name ∧
      last.record.origin.scriptId = .str "job" ∧ last.record.origin.depth = .int 7 ∧
      ∀ line ∈ earlier, line.record.label ≠ .str Log.Level.info.name := by
  obtain ⟨restored, ⟨id, calls, lines, ⟨same, drawn⟩, journal, -, parsed, -⟩, -, reported⟩ :=
    perform_traced Toolchain.standard {} nestedEnvironment (.script "outer") watchedAmbient
  obtain ⟨raw, outcome⟩ := outcome_nestedEnvironment
  have returned := (Toolchain.standard.yields_compile {} nestedEnvironment "outer"
    watchedAmbient).trans outcome
  obtain ⟨earlier, last, written, label, -, script, depth, others⟩ :=
    reported _ _ _ rfl returned rfl (by decide)
  rw [parses_nestedEnvironment, same] at parsed
  refine ⟨restored, drawn, ?_, earlier, last, written, label, script, depth, others⟩
  exact (congrArg (List.filterMap StageCall.parsed?) journal).trans parsed

end Request

end ScriptTemplate
