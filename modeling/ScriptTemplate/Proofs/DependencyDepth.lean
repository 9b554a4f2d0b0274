/-
# Depths that are measured are depths that are parsed at

Three records follow a compilation down its scripts: the metrics observe how deep a script lies, the
trace shows the same depth to whoever parses its text, and the resolver of that text is handed the
ancestry.  No record is computed from another.  This file shows that they agree.

* `Measured` is the shape of what a compilation does: a depth is observed right before each parse
  call and nowhere else, in the same script, and a text that parses gets its resolver right after.
  The events of every script have this shape (`measured_referenceEvents`), those of a script with
  gate and transform too (`measured_gatedEvents`): it is kept by putting rows one after the other
  and by going into a script.
* An escape cuts a row of events off.  It comes after the parse call that it belongs to, so what is
  left has the shape still; the outcome of a compilation occurs in no statement below.
* `Histogram.greatest_observeAll`: a row of depths moves the greatest value to the deepest of them,
  if that is above it.  The value before may be a double, and even one that is no number.
-/
import Mathlib
import ScriptTemplate.Proofs.CompilationTrace
import ScriptTemplate.Proofs.LocktimeGate

namespace ScriptTemplate

/-! ## 1. The shape of what a compilation does -/

/-- Actions that are neither a measurement of a depth nor a part of parsing. -/
def Action.isMinor : Action → Bool
  | .parse _ | .createResolver _ | .observeDepth _ => false
  | .resolve _ | .collect .. | .reduce .. | .log .. | .countCycle => true

/-- **Every parse call is measured.**  A depth is observed in a script right before its text is
parsed, and is the length of the ancestry outside of the script.  If the text parses, its resolver
is created next, with the ancestry inside of the script. -/
inductive Measured {τ ρ σ : Type} (T : Toolchain τ ρ σ) : List Event → Prop
  | nil : Measured T []
  | minor {event : Event} {rest : List Event} (minor : event.action.isMinor)
    (tail : Measured T rest) : Measured T (event :: rest)
  | unparsed {env : Environment} {id text : Text} {rest : List Event}
    (fails : ∀ tree, T.parse text ≠ .ok (.ok tree)) (tail : Measured T rest) :
    Measured T (⟨some (env, id), .observeDepth env.ancestry.length⟩ ::
      ⟨some (env, id), .parse text⟩ :: rest)
  | parsed {env : Environment} {id text : Text} {rest : List Event} (tail : Measured T rest) :
    Measured T (⟨some (env, id), .observeDepth env.ancestry.length⟩ ::
      ⟨some (env, id), .parse text⟩ ::
      ⟨some (env, id), .createResolver (env.ancestry ++ [id])⟩ :: rest)

namespace Measured

variable {τ ρ σ : Type} {T : Toolchain τ ρ σ} {events more : List Event}

theorem append (first : Measured T events) (second : Measured T more) :
    Measured T (events ++ more) := by
  induction first with
  | nil => exact second
  | minor minor _ ih => exact .minor minor ih
  | unparsed fails _ ih => exact .unparsed fails ih
  | parsed _ ih => exact .parsed ih

/-- Going into a script leaves the measured scripts where they are. -/
theorem map_inside (measured : Measured T events) (call : Call) :
    Measured T (events.map (Event.inside call)) := by
  induction measured with
  | nil => exact .nil
  | minor minor _ ih => exact .minor minor ih
  | unparsed fails _ ih => exact .unparsed fails ih
  | parsed _ ih => exact .parsed ih

theorem onReturn {α : Type} {outcome : Except Escape α} {rest : α → List Event}
    (measured : ∀ value, Measured T (rest value)) :
    Measured T (ScriptTemplate.onReturn outcome rest) := by
  cases outcome with
  | error escape => exact .nil
  | ok value => exact measured value

end Measured

theorem Resolving.measured_events {τ ρ σ α : Type} {T : Toolchain τ ρ σ}
    {known : Text → Except Escape Verdict} {below : Text → List Event}
    (measured : ∀ id, Measured T (below id)) (r : Resolving α) :
    Measured T (r.events known below) := by
  induction r with
  | done value => exact .nil
  | fail escape => exact .nil
  | reference id next ih => exact (measured id).append (.onReturn ih)

namespace Toolchain

variable {τ ρ σ : Type}

theorem measured_reduceEvents (T : Toolchain τ ρ σ) (env : Environment) (text : Text)
    (resolved : ρ) : Measured T (T.reduceEvents env text resolved) := by
  refine .minor rfl (.onReturn fun reduction => ?_)
  cases reduction with
  | bytecode bytecode states => exact .nil
  | errors first others states => exact .minor rfl .nil

theorem measured_resolvedEvents (T : Toolchain τ ρ σ) (env : Environment) (text : Text)
    (resolved : ρ) : Measured T (T.resolvedEvents env text resolved) := by
  refine .minor rfl ?_
  cases T.collect resolved with
  | nil => exact T.measured_reduceEvents env text resolved
  | cons first others => exact .minor rfl .nil

/-- **A script that is entered is measured**, if the scripts that it refers to are. -/
theorem measured_entered (T : Toolchain τ ρ σ) (data : Data) (env : Environment) (id text : Text)
    {known : Text → Except Escape Verdict} {below : Text → List Event}
    (measured : ∀ other, Measured T (below other)) :
    Measured T ((.own (.observeDepth env.ancestry.length) ::
      T.stagesEvents data (env.descend id) known below text).map (Event.inside (env, id))) := by
  unfold stagesEvents
  cases parsed : T.parse text with
  | error escape => exact .unparsed (by simp [parsed]) .nil
  | ok verdict =>
    cases verdict with
    | error failure => exact .unparsed (by simp [parsed]) (.minor rfl .nil)
    | ok tree =>
      have after : Measured T (.own (.resolve text) ::
          ((T.resolve data (env.descend id) tree).events known below ++
            onReturn ((T.resolve data (env.descend id) tree).settle known)
              (T.resolvedEvents (env.descend id) text))) :=
        .minor rfl ((Resolving.measured_events measured _).append
          (.onReturn (T.measured_resolvedEvents _ text)))
      exact .parsed (after.map_inside (env, id))

/-- **All parse calls of a script are measured**, of its own text and of those below it. -/
theorem measured_referenceEvents (T : Toolchain τ ρ σ) (data : Data) (env : Environment)
    (id : Text) : Measured T (T.referenceEvents data env id) := by
  induction hp : env.pending using Nat.strongRecOn generalizing env id with
  | ind pending ih =>
    cases located : env.locate id with
    | error refusal =>
      rw [T.referenceEvents_of_refused data located]
      cases refusal with
      | unknown id => exact .minor rfl .nil
      | tooDeep id ancestry ceiling => exact .minor rfl .nil
      | circular id ancestry => exact .minor rfl (.minor rfl .nil)
    | ok text =>
      rw [T.referenceEvents_of_located data located]
      refine .minor rfl (T.measured_entered data env id text fun other => ?_)
      exact ih _ (hp ▸ Environment.pending_descend_lt located) (env.descend id) other rfl

theorem measured_gatedEvents (T : Toolchain τ ρ σ) (data : Data) (env : Environment) (id : Text) :
    Measured T (T.gatedEvents data env id) := by
  unfold gatedEvents
  cases locktimeMismatch? data env id with
  | some mismatch => exact .minor rfl .nil
  | none =>
    refine (T.measured_referenceEvents data env id).append (.onReturn fun result => ?_)
    cases result with
    | failure outcome => exact .nil
    | success raw =>
      show Measured T (T.transformEvents data env id raw)
      unfold transformEvents
      split
      · exact .minor rfl (T.measured_referenceEvents _ _ _)
      · split
        · exact .nil
        · refine .minor rfl ((T.measured_referenceEvents _ _ _).append (.onReturn fun result => ?_))
          cases result with
          | failure outcome => exact .nil
          | success locking => exact T.measured_referenceEvents _ _ _

end Toolchain

/-! ## 2. What is seen of a measured row -/

/-- The depth that an event measures, if it measures one. -/
def Event.depth? (event : Event) : Option Nat :=
  match event.action with
  | .observeDepth depth => some depth
  | _ => none

/-- The depth that a parse call saw in the trace. -/
def StageCall.depth? : StageCall → Option Json
  | .parse _ trace => some trace.depth
  | _ => none

/-- **A resolver that fits a parse call**: it is handed one ancestor more than the depth that the
parse call saw, and the last of them is the script that the parse call saw. -/
def StageCall.Follows (trace : Trace) (call : StageCall) : Prop :=
  ∃ ancestry depth id, call = .createResolver ancestry ∧ trace.depth = .int depth ∧
    ancestry.length = depth + 1 ∧ trace.scriptId = .str id ∧ ancestry.getLast? = some id

namespace Measured

variable {τ ρ σ : Type} {T : Toolchain τ ρ σ} {events : List Event}

/-- A minor event is neither measured nor a parse call. -/
theorem stageCall?_of_isMinor {event : Event} (minor : event.action.isMinor) (around : Trace) :
    event.depth? = none ∧ ∀ call, event.stageCall? around = some call →
      call.depth? = none ∧ ∀ text trace, call ≠ .parse text trace := by
  obtain ⟨place, action⟩ := event
  cases action with
  | parse _ | createResolver _ | observeDepth _ => cases minor
  | resolve _ | collect _ _ | reduce _ _ =>
    refine ⟨rfl, ?_⟩
    rintro _ ⟨⟩
    exact ⟨rfl, by simp⟩
  | log _ _ _ | countCycle => exact ⟨rfl, by rintro _ ⟨⟩⟩

/-- **The parse calls see the depths that are measured**, in the same order. -/
theorem seen_eq (measured : Measured T events) (around : Trace) :
    (events.filterMap (Event.stageCall? around)).filterMap StageCall.depth? =
      (events.filterMap Event.depth?).map fun depth => .int depth := by
  induction measured with
  | nil => rfl
  | @minor event rest minor _ ih =>
    obtain ⟨unmeasured, unseen⟩ := stageCall?_of_isMinor minor around
    rw [List.filterMap_cons_none unmeasured, ← ih]
    cases called : event.stageCall? around with
    | none => rw [List.filterMap_cons_none called]
    | some call =>
      rw [List.filterMap_cons_some called, List.filterMap_cons_none (unseen call called).1]
  | unparsed fails _ ih => exact congrArg _ ih
  | parsed _ ih => exact congrArg _ ih

/-- **A parse call that succeeds is followed by a resolver that fits it.** -/
theorem follows (measured : Measured T events) {around : Trace} {earlier later : List StageCall}
    {text : Text} {trace : Trace} {tree : τ}
    (split : events.filterMap (Event.stageCall? around) = earlier ++ .parse text trace :: later)
    (succeeds : T.parse text = .ok (.ok tree)) :
    ∃ next rest, later = next :: rest ∧ next.Follows trace := by
  -- The induction goes along the events; a call before the one that is looked at is dropped.
  induction measured generalizing earlier with
  | nil => simp at split
  | @minor event rest minor _ ih =>
    cases called : event.stageCall? around with
    | none =>
      rw [List.filterMap_cons_none called] at split
      exact ih split
    | some call =>
      rw [List.filterMap_cons_some called] at split
      cases earlier with
      | nil =>
        cases split
        exact absurd rfl (((stageCall?_of_isMinor minor around).2 _ called).2 text trace)
      | cons first earlier => exact ih (List.cons.inj split).2
  | @unparsed env id other rest fails _ ih =>
    have calls : (⟨some (env, id), .observeDepth env.ancestry.length⟩ ::
        ⟨some (env, id), .parse other⟩ :: rest : List Event).filterMap (Event.stageCall? around) =
          .parse other (around.change (Toolchain.scriptTrace env id)) ::
            rest.filterMap (Event.stageCall? around) := rfl
    rw [calls] at split
    cases earlier with
    | nil =>
      cases split
      exact absurd succeeds (fails tree)
    | cons first earlier => exact ih (List.cons.inj split).2
  | @parsed env id other rest _ ih =>
    have calls : (⟨some (env, id), .observeDepth env.ancestry.length⟩ ::
        ⟨some (env, id), .parse other⟩ ::
        ⟨some (env, id), .createResolver (env.ancestry ++ [id])⟩ :: rest : List Event).filterMap
          (Event.stageCall? around) =
        .parse other (around.change (Toolchain.scriptTrace env id)) ::
          .createResolver (env.ancestry ++ [id]) :: rest.filterMap (Event.stageCall? around) := rfl
    rw [calls] at split
    match earlier with
    | [] =>
      cases split
      exact ⟨_, _, rfl, env.ancestry ++ [id], env.ancestry.length, id, rfl, rfl, by simp, rfl,
        by simp⟩
    | [first] => cases split
    | first :: second :: earlier => exact ih (List.cons.inj (List.cons.inj split).2).2

end Measured

/-! ## 3. Rows of depths in the histogram -/

namespace Number

/-- Of two numbers the one that is above the other, and the first if none is. -/
def larger (a b : Number) : Number := if b.exceeds a then b else a

/-- An integer above another is above everything that the other is above. -/
theorem exceeds_mono {a b : Int} {n : Number} (le : a ≤ b) (above : (Number.int a).exceeds n) :
    (Number.int b).exceeds n := by
  cases n with
  | int c =>
    simp only [exceeds, decide_eq_true_eq] at above ⊢
    omega
  | float x =>
    simp only [exceeds] at above ⊢
    generalize Binary.ofFloat x = taken at above ⊢
    cases taken with
    | nan => exact above
    | infinite negative => exact above
    | finite negative significand exponent =>
      simp only [compareInt, beq_iff_eq] at above ⊢
      split at above
      · next whole =>
        rw [if_pos whole]
        rw [compare_gt_iff_gt] at above ⊢
        omega
      · next fraction =>
        rw [if_neg fraction]
        rw [compare_gt_iff_gt] at above ⊢
        have scaled :
            a * (Nat.pow 2 (-exponent).toNat : Int) ≤ b * (Nat.pow 2 (-exponent).toNat : Int) :=
          Int.mul_le_mul_of_nonneg_right le (Int.natCast_nonneg _)
        omega

theorem larger_int (a b : Nat) :
    (Number.int a).larger (.int b) = .int (max a b : Nat) := by
  unfold larger exceeds
  by_cases above : a < b
  · rw [if_pos (by simpa using above), Nat.max_eq_right (Nat.le_of_lt above)]
  · rw [if_neg (by simpa using above), Nat.max_eq_left (Nat.le_of_not_lt above)]

/-- Two integers move a number as far as the larger of them does. -/
theorem larger_larger (n : Number) (a b : Nat) :
    (n.larger (.int a)).larger (.int b) = n.larger (.int (max a b : Nat)) := by
  by_cases first : (Number.int a).exceeds n
  · have both : (Number.int (max a b : Nat)).exceeds n :=
      exceeds_mono (by omega) first
    rw [show n.larger (.int a) = .int a from if_pos first, larger_int, larger, if_pos both]
  · rw [show n.larger (.int a) = n from if_neg first]
    rcases Nat.le_total a b with le | le
    · rw [Nat.max_eq_right le]
    · rw [Nat.max_eq_left le]
      have second : ¬ (Number.int b).exceeds n := fun above =>
        first (exceeds_mono (by omega) above)
      rw [larger, larger, if_neg first, if_neg second]

end Number

namespace Metrics.Histogram

/-- A histogram that has taken a row of depths into account. -/
def observeAll (h : Histogram) (depths : List Nat) : Histogram :=
  depths.foldl (fun h depth => h.observe (.int depth)) h

/-- The greatest value once the deepest of a row of depths is taken into account: the larger one, or
the depth itself if there was no value before. -/
def raisedTo (h : Histogram) : Option Nat → Number
  | none => h.greatest
  | some deepest => if h.count = 0 then .int deepest else h.greatest.larger (.int deepest)

theorem count_observeAll (h : Histogram) (depths : List Nat) :
    (h.observeAll depths).count = h.count + depths.length := by
  induction depths generalizing h with
  | nil => rfl
  | cons depth rest ih =>
    show ((h.observe (.int depth)).observeAll rest).count = _
    rw [ih, List.length_cons, show (h.observe (.int depth)).count = h.count + 1 from rfl]
    omega

/-- **A row of depths raises the greatest value to the deepest of them.** -/
theorem greatest_observeAll (h : Histogram) (depths : List Nat) :
    (h.observeAll depths).greatest = h.raisedTo depths.max? := by
  induction depths generalizing h with
  | nil => rfl
  | cons depth rest ih =>
    have once : (h.observe (.int depth)).greatest = h.raisedTo (some depth) := rfl
    have step : (h.observeAll (depth :: rest)).greatest =
        (h.observe (.int depth)).raisedTo rest.max? := ih (h.observe (.int depth))
    rw [step, List.max?_cons]
    cases rest.max? with
    | none => exact once
    | some deepest =>
      have observed : (h.observe (.int depth)).count ≠ 0 := Nat.succ_ne_zero _
      rw [raisedTo, if_neg observed, once]
      by_cases empty : h.count = 0
      · simp only [raisedTo, empty, if_true, Option.elim_some, Number.larger_int]
      · simp only [raisedTo, empty, if_false, Option.elim_some, Number.larger_larger]

end Metrics.Histogram

/-- The depths that events measure are those that the histogram observes. -/
theorem dependencyDepth_foldl (metrics : Metrics.Registry) (events : List Event) :
    (events.foldl Event.measure metrics).dependencyDepth =
      metrics.dependencyDepth.observeAll (events.filterMap Event.depth?) := by
  induction events generalizing metrics with
  | nil => rfl
  | cons event rest ih =>
    rw [List.foldl_cons, ih]
    obtain ⟨place, action⟩ := event
    cases action <;> rfl

/-! ## 4. The depths of a compilation -/

/-- **The histogram has followed the parse calls** between two times.  `calls` are the stage calls
made, and `depths` what the parse calls among them saw in the trace. -/
structure FollowsParses {τ ρ σ : Type} (T : Toolchain τ ρ σ) (before after : Ambient)
    (calls : List StageCall) (depths : List Nat) : Prop where
  made : after.journal = before.journal ++ calls
  seen : calls.filterMap StageCall.depth? = depths.map fun depth => .int depth
  count : after.metrics.dependencyDepth.count =
    before.metrics.dependencyDepth.count + depths.length
  greatest : after.metrics.dependencyDepth.greatest =
    before.metrics.dependencyDepth.raisedTo depths.max?
  /-- A parse call that succeeds is followed by a resolver that fits it. -/
  followed : ∀ earlier text trace tree later, calls = earlier ++ .parse text trace :: later →
    T.parse text = .ok (.ok tree) → ∃ next rest, later = next :: rest ∧ next.Follows trace

/-- No stage was called between two times, and no depth observed. -/
structure Idle (before after : Ambient) : Prop where
  journal : after.journal = before.journal
  depths : after.metrics.dependencyDepth = before.metrics.dependencyDepth

/-- Actions that no stage call and no depth comes from. -/
def Action.isQuiet : Action → Bool
  | .log .. | .countCycle => true
  | _ => false

theorem Event.of_isQuiet {event : Event} (quiet : event.action.isQuiet) (around : Trace) :
    event.stageCall? around = none ∧ event.depth? = none := by
  obtain ⟨place, action⟩ := event
  cases action with
  | log _ _ _ | countCycle => exact ⟨rfl, rfl⟩
  | parse _ | createResolver _ | resolve _ | collect _ _ | reduce _ _ | observeDepth _ =>
    cases quiet

/-- What events leave of the journal and of the depths, whatever else changes. -/
structure Ambient.Records (around : Trace) (events : List Event) (before after : Ambient) :
    Prop where
  journal : after.journal = before.journal ++ events.filterMap (Event.stageCall? around)
  depths : after.metrics.dependencyDepth =
    before.metrics.dependencyDepth.observeAll (events.filterMap Event.depth?)

namespace Ambient.Records

variable {around : Trace} {events : List Event} {before after : Ambient}

/-- **What a measured row of events leaves follows its parse calls.** -/
theorem followsParses {τ ρ σ : Type} {T : Toolchain τ ρ σ}
    (records : Records around events before after) (measured : Measured T events) :
    ∃ calls depths, FollowsParses T before after calls depths := by
  refine ⟨_, events.filterMap Event.depth?, records.journal, measured.seen_eq around, ?_, ?_, ?_⟩
  · rw [records.depths, Metrics.Histogram.count_observeAll]
  · rw [records.depths, Metrics.Histogram.greatest_observeAll]
  · intro earlier text trace tree later split succeeds
    exact measured.follows split succeeds

theorem idle (records : Records around events before after)
    (quiet : ∀ event ∈ events, event.action.isQuiet) : Idle before after := by
  have uncalled : ∀ event ∈ events, event.stageCall? around = none :=
    fun event member => (Event.of_isQuiet (quiet event member) around).1
  have unmeasured : ∀ event ∈ events, event.depth? = none :=
    fun event member => (Event.of_isQuiet (quiet event member) around).2
  refine ⟨?_, ?_⟩
  · rw [records.journal, List.filterMap_eq_nil_iff.mpr uncalled, List.append_nil]
  · rw [records.depths, List.filterMap_eq_nil_iff.mpr unmeasured]
    rfl

end Ambient.Records

namespace Toolchain

variable {τ ρ σ : Type}

theorem records_compileReference (T : Toolchain τ ρ σ) (data : Data) (env : Environment) (id : Text)
    (ambient : Ambient) :
    Ambient.Records ambient.trace (T.referenceEvents data env id) ambient
      ((T.compileReference data env id).run ambient).2 := by
  rw [T.does_compileReference data env id ambient]
  exact ⟨rfl, dependencyDepth_foldl _ _⟩

/-- The report at the end of a top-level compilation is no stage call and observes no depth. -/
theorem records_compile_depths (T : Toolchain τ ρ σ) (data : Data) (env : Environment) (id : Text)
    (ambient : Ambient) :
    Ambient.Records ambient.begun.trace (T.gatedEvents data env id) ambient
      ((T.compile data env id).run ambient).2 := by
  refine ⟨((Request.script id).leaves_perform T data env ambient).journal, ?_⟩
  rw [T.metrics_compile data env id ambient, ← dependencyDepth_foldl]
  cases T.scriptOutcome data env id <;> rfl

section Refused

variable (T : Toolchain τ ρ σ) {data : Data} {env : Environment} {id : Text}

theorem quiet_referenceEvents {refusal : Refusal} (refuses : env.Refuses id refusal) :
    ∀ event ∈ T.referenceEvents data env id, event.action.isQuiet := by
  rw [T.referenceEvents_of_refused data (Environment.locate_eq_error_iff.mpr refuses)]
  cases refuses <;> simp [refusalEvents, Event.own, Event.inside, Action.isQuiet]

theorem quiet_gatedEvents
    (stopped : WrongLocktime data env id ∨ ∃ refusal, env.Refuses id refusal) :
    ∀ event ∈ T.gatedEvents data env id, event.action.isQuiet := by
  unfold gatedEvents
  cases gate : locktimeMismatch? data env id with
  | some mismatch => simp [Event.own, Action.isQuiet]
  | none =>
    rcases stopped with wrong | ⟨refusal, refuses⟩
    · exact absurd wrong (locktimeMismatch?_eq_none_iff.mp gate)
    · -- A refusal is a failure, so nothing follows it.
      rw [T.referenceOutcome_of_refused data (Environment.locate_eq_error_iff.mpr refuses)]
      intro event member
      rcases List.mem_append.mp member with own | after
      · exact T.quiet_referenceEvents refuses event own
      · cases after

end Refused

/-- **The histogram of depths mirrors the parse calls.**  In all surroundings, and however the
compilation ends, a script by its id and a script with gate and transform each observe one depth for
each parse call that they make, the one that the call sees in the trace; the greatest value becomes
the larger of what it was and the deepest of them; and a parse call that succeeds is followed by a
resolver whose ancestry is one longer than that depth and ends with the script of the trace.  A
script that is unknown, circular or too deep, and one whose locktime does not fit, calls no stage
and observes nothing, be it at the top or inside of another one. -/
theorem depths_follow_parses (T : Toolchain τ ρ σ) (data : Data) (env : Environment) (id : Text)
    (ambient : Ambient) :
    (∃ calls depths,
      FollowsParses T ambient ((T.compileReference data env id).run ambient).2 calls depths) ∧
    (∃ calls depths,
      FollowsParses T ambient ((T.compile data env id).run ambient).2 calls depths) ∧
    (∀ refusal, env.Refuses id refusal →
      Idle ambient ((T.compileReference data env id).run ambient).2) ∧
    ((WrongLocktime data env id ∨ ∃ refusal, env.Refuses id refusal) →
      Idle ambient ((T.compile data env id).run ambient).2) := by
  have reference := T.records_compileReference data env id ambient
  have script := T.records_compile_depths data env id ambient
  refine ⟨reference.followsParses (T.measured_referenceEvents data env id),
    script.followsParses (T.measured_gatedEvents data env id), ?_, ?_⟩
  · intro refusal refuses
    exact reference.idle (T.quiet_referenceEvents refuses)
  · intro stopped
    exact script.idle (T.quiet_gatedEvents stopped)

/-- A script that refers to another, which escapes when it is reduced. -/
def brokenEnvironment : Environment where
  scripts := [("outer", some "inner OP_1"), ("inner", some "$(0x4c)")]

/-- Surroundings in which depths were observed before, none of them above zero. -/
def measuredAmbient : Ambient where
  host := ⟨fun _ => 0, fun _ => "fresh", ""⟩
  metrics := { dependencyDepth := { count := 3, greatest := .int 0 } }

theorem depths_brokenEnvironment :
    (standard.gatedEvents {} brokenEnvironment "outer").filterMap Event.depth? = [0, 1] := by
  cbv

/-- Two texts are parsed before the compilation escapes: two depths are observed, and the deeper one
is the greatest now.  A script that is not there adds nothing. -/
theorem depths_follow_parses_escaping :
    let ran := (standard.compile {} brokenEnvironment "outer").run measuredAmbient
    ran.1 = .error .truncatedPush ∧
      ran.2.metrics.dependencyDepth.count = 5 ∧
      ran.2.metrics.dependencyDepth.greatest = .int 1 ∧
      brokenEnvironment.Refuses "nowhere" (.unknown "nowhere") ∧
      Idle measuredAmbient
        ((standard.compile {} brokenEnvironment "nowhere").run measuredAmbient).2 := by
  obtain ⟨-, ⟨calls, depths, follows⟩, -, -⟩ :=
    depths_follow_parses standard {} brokenEnvironment "outer" measuredAmbient
  have escapes : standard.scriptOutcome {} brokenEnvironment "outer" = .error .truncatedPush := by
    cbv
  have made :=
    (standard.records_compile_depths {} brokenEnvironment "outer" measuredAmbient).journal
  have seen := follows.seen
  rw [List.append_cancel_left (follows.made.symm.trans made),
    (standard.measured_gatedEvents {} brokenEnvironment "outer").seen_eq,
    depths_brokenEnvironment] at seen
  have number : Function.Injective fun depth : Nat => Json.int depth := by
    intro a b same
    simpa [Json.int] using same
  have depths_eq : depths = [0, 1] := (List.map_injective_iff.mpr number seen).symm
  have missing : brokenEnvironment.Refuses "nowhere" (.unknown "nowhere") := .unknown (by decide)
  refine ⟨(standard.yields_compile {} brokenEnvironment "outer" measuredAmbient).trans escapes,
    ?_, ?_, missing, ?_⟩
  · rw [follows.count, depths_eq]
    rfl
  · rw [follows.greatest, depths_eq]
    rfl
  · exact (depths_follow_parses standard {} brokenEnvironment "nowhere" measuredAmbient).2.2.2
      (.inr ⟨_, missing⟩)

end Toolchain

end ScriptTemplate
