/-
# The stage calls of a compilation

The journal of a compilation lists the calls of stages.  This file says which calls a text makes, and
in which order.

* `Guarded` is the shape of all journals: a text is reduced right after its errors are collected,
  exactly if there are none, and at no other time.  It is kept by putting rows of calls one after the
  other, and the outcome plays no part in it: an escape cuts a row off between two texts, before the
  errors of a text are collected, or after it is reduced.  Hence it holds for all toolchains and all
  runs (`Toolchain.reduced_iff_collected`).
* For the standard toolchain the whole row of calls is known (`Toolchain.calls_compileText`).  The
  resolver asks for the scripts among the names of the text, one by one and from left to right, so
  the calls of these scripts stand between its own.
-/
import Mathlib
import ScriptTemplate.Proofs.Chronicle
import ScriptTemplate.Proofs.References

namespace ScriptTemplate

/-! ## 1. Calls -/

/-- The stage calls that events are, in order. -/
def Event.calls (around : Trace) (events : List Event) : List StageCall :=
  events.filterMap (Event.stageCall? around)

theorem Event.calls_append (around : Trace) (events more : List Event) :
    Event.calls around (events ++ more) = Event.calls around events ++ Event.calls around more :=
  List.filterMap_append

theorem Event.calls_flatMap (around : Trace) {α : Type} (items : List α)
    (events : α → List Event) :
    Event.calls around (items.flatMap events) =
      items.flatMap fun item => Event.calls around (events item) :=
  List.filterMap_flatMap

/-- Events inside a script make the calls that they make under its trace. -/
theorem Event.calls_map_inside (around : Trace) (call : Call) (events : List Event) :
    Event.calls around (events.map (Event.inside call)) =
      Event.calls (around.change (Toolchain.scriptTrace call.1 call.2)) events := by
  unfold Event.calls
  rw [List.filterMap_map]
  exact List.filterMap_congr fun event _ => event.stageCall?_inside around call

/-- The stage calls that a step makes. -/
def CompileM.calls {α : Type} (step : CompileM α) (ambient : Ambient) : List StageCall :=
  (step.run { ambient with journal := [] }).2.journal

/-- A step makes the calls that its events are. -/
theorem CompileM.Does.calls_eq {α : Type} {step : CompileM α} {events : List Event}
    (does : step.Does events) (ambient : Ambient) :
    step.calls ambient = Event.calls ambient.trace events := by
  unfold CompileM.calls
  rw [does]
  exact List.nil_append _

/-- The calls of a step are added to the journal. -/
theorem CompileM.Does.journal_eq {α : Type} {step : CompileM α} {events : List Event}
    (does : step.Does events) (ambient : Ambient) :
    (step.run ambient).2.journal = ambient.journal ++ step.calls ambient := by
  rw [does, does.calls_eq]
  rfl

/-! ## 2. The shape of calls -/

/-- Calls that come before the errors of a text are collected. -/
def StageCall.isEarly : StageCall → Bool
  | .parse .. | .createResolver _ | .resolve _ => true
  | .collect .. | .reduce .. => false

/-- **A text is reduced right after its errors are collected, exactly if there are none.**  There is
no other call of the reducer. -/
inductive Guarded : List StageCall → Prop
  | nil : Guarded []
  | early {call : StageCall} {rest : List StageCall} (early : call.isEarly) (tail : Guarded rest) :
    Guarded (call :: rest)
  | unresolved {text : Text} {errors : Nat} {rest : List StageCall} (tail : Guarded rest) :
    Guarded (.collect text (errors + 1) :: rest)
  | resolved {text : Text} {capabilities : Capabilities} {rest : List StageCall}
    (tail : Guarded rest) :
    Guarded (.collect text 0 :: .reduce text capabilities :: rest)

namespace Guarded

variable {calls more : List StageCall}

theorem append (first : Guarded calls) (second : Guarded more) : Guarded (calls ++ more) := by
  induction first with
  | nil => exact second
  | early early _ ih => exact .early early ih
  | unresolved _ ih => exact .unresolved ih
  | resolved _ ih => exact .resolved ih

/-- The reducer is not called first. -/
theorem head?_ne_reduce (guarded : Guarded calls) (text : Text) (capabilities : Capabilities) :
    calls.head? ≠ some (.reduce text capabilities) := by
  cases guarded with
  | nil => simp
  | early early _ =>
    rintro ⟨⟩
    cases early
  | unresolved _ => simp
  | resolved _ => simp

/-- A call that is put in front is not the last one, unless it is the only one. -/
theorem getLast?_cons_iff {call last : StageCall} (differs : call ≠ last) :
    (call :: calls).getLast? = some last ↔ calls.getLast? = some last := by
  cases calls with
  | nil => simpa using differs
  | cons next rest => rw [List.getLast?_cons_cons]

/-- **At every point of a run, the reducer is called next on a text exactly if the errors of this
text have just been collected and there are none.** -/
theorem reduced_iff {earlier later : List StageCall} {text : Text}
    (guarded : Guarded (earlier ++ later)) :
    (∃ capabilities, later.head? = some (.reduce text capabilities)) ↔
      earlier.getLast? = some (.collect text 0) := by
  generalize split : earlier ++ later = calls at guarded
  induction guarded generalizing earlier with
  | nil =>
    obtain ⟨rfl, rfl⟩ := List.append_eq_nil_iff.mp split
    simp
  | @early call rest early tail ih =>
    cases earlier with
    | nil =>
      have first := (Guarded.early early tail).head?_ne_reduce text
      rw [← split] at first
      simpa using first
    | cons own others =>
      obtain ⟨rfl, rest⟩ := List.cons.inj split
      have differs : own ≠ .collect text 0 := by
        rintro rfl
        cases early
      rw [ih rest, getLast?_cons_iff differs]
  | @unresolved other errors rest tail ih =>
    cases earlier with
    | nil =>
      cases split
      simp
    | cons own others =>
      obtain ⟨rfl, rest⟩ := List.cons.inj split
      rw [ih rest, getLast?_cons_iff (by simp)]
  | @resolved other capabilities rest tail ih =>
    rcases earlier with _ | ⟨own, _ | ⟨next, others⟩⟩
    · cases split
      simp
    · cases split
      simp [eq_comm]
    · obtain ⟨rfl, inner⟩ := List.cons.inj split
      obtain ⟨rfl, rest⟩ := List.cons.inj inner
      rw [ih rest, List.getLast?_cons_cons, getLast?_cons_iff (by simp)]

theorem onReturn {α : Type} {outcome : Except Escape α} {rest : α → List Event} {around : Trace}
    (guarded : ∀ value, Guarded (Event.calls around (rest value))) :
    Guarded (Event.calls around (ScriptTemplate.onReturn outcome rest)) := by
  cases outcome with
  | error escape => exact .nil
  | ok value => exact guarded value

end Guarded

/-! ## 3. All calls are guarded -/

theorem Resolving.guarded_events {α : Type} {known : Text → Except Escape Verdict}
    {below : Text → List Event} {around : Trace}
    (guarded : ∀ id, Guarded (Event.calls around (below id))) (r : Resolving α) :
    Guarded (Event.calls around (r.events known below)) := by
  induction r with
  | done value => exact .nil
  | fail escape => exact .nil
  | reference id next ih =>
    rw [Resolving.events, Event.calls_append]
    exact (guarded id).append (.onReturn ih)

namespace Toolchain

variable {τ ρ σ : Type}

/-- The calls of a text once it is resolved: its errors are collected, and it is reduced if there are
none. -/
theorem calls_resolvedEvents (T : Toolchain τ ρ σ) (env : Environment) (text : Text)
    (resolved : ρ) (around : Trace) :
    Event.calls around (T.resolvedEvents env text resolved) =
      .collect text (T.collect resolved).length ::
        if T.collect resolved = [] then [.reduce text env.capabilities] else [] := by
  unfold resolvedEvents
  cases T.collect resolved with
  | cons first others => rfl
  | nil =>
    unfold reduceEvents
    cases T.reduce env.capabilities resolved with
    | error escape => rfl
    | ok reduction => cases reduction <;> rfl

theorem guarded_resolvedEvents (T : Toolchain τ ρ σ) (env : Environment) (text : Text)
    (resolved : ρ) (around : Trace) :
    Guarded (Event.calls around (T.resolvedEvents env text resolved)) := by
  rw [calls_resolvedEvents]
  cases T.collect resolved with
  | nil => exact .resolved .nil
  | cons first others => exact .unresolved .nil

/-- **The calls of a text are guarded**, if those of the scripts that it refers to are. -/
theorem guarded_stagesEvents (T : Toolchain τ ρ σ) (data : Data) (env : Environment) (text : Text)
    {known : Text → Except Escape Verdict} {below : Text → List Event} {around : Trace}
    (guarded : ∀ id, Guarded (Event.calls around (below id))) :
    Guarded (Event.calls around (T.stagesEvents data env known below text)) := by
  refine .early rfl (.onReturn fun verdict => ?_)
  cases verdict with
  | error failure => exact .nil
  | ok tree =>
    refine .early rfl (.early rfl ?_)
    show Guarded (Event.calls around (_ ++ _))
    rw [Event.calls_append]
    exact (Resolving.guarded_events guarded _).append
      (.onReturn fun resolved => T.guarded_resolvedEvents env text resolved around)

/-- **The calls of a script are guarded**, with those of all scripts below it. -/
theorem guarded_referenceEvents (T : Toolchain τ ρ σ) (data : Data) (env : Environment)
    (id : Text) (around : Trace) :
    Guarded (Event.calls around (T.referenceEvents data env id)) := by
  -- The recursion goes down the scripts that are not in the ancestry.
  induction hp : env.pending using Nat.strongRecOn generalizing env id around with
  | ind pending ih =>
    cases located : env.locate id with
    | error refusal =>
      rw [T.referenceEvents_of_refused data located, Event.calls_map_inside]
      cases refusal <;> exact .nil
    | ok text =>
      rw [T.referenceEvents_of_located data located, Event.calls_map_inside]
      exact T.guarded_stagesEvents data (env.descend id) text fun other =>
        ih _ (hp ▸ Environment.pending_descend_lt located) (env.descend id) other _ rfl

/-- **Whatever the toolchain, and however a text ends, its calls are guarded.** -/
theorem guarded_compileText (T : Toolchain τ ρ σ) (data : Data) (env : Environment) (text : Text)
    (ambient : Ambient) : Guarded ((T.compileText data env text).calls ambient) := by
  rw [(T.does_compileText data env text).calls_eq]
  exact T.guarded_stagesEvents data env text fun id => T.guarded_referenceEvents data env id _

/-- **Wherever the calls of a text are cut, the reducer is called next on a text exactly if the errors
of that text have just been collected and there are none.**  The text may be that of a script at any
depth. -/
theorem reduced_iff_collected (T : Toolchain τ ρ σ) {data : Data} {env : Environment} {text : Text}
    {ambient : Ambient} {earlier later : List StageCall} {other : Text}
    (split : (T.compileText data env text).calls ambient = earlier ++ later) :
    (∃ capabilities, later.head? = some (.reduce other capabilities)) ↔
      earlier.getLast? = some (.collect other 0) := by
  have guarded := T.guarded_compileText data env text ambient
  rw [split] at guarded
  exact guarded.reduced_iff

end Toolchain

/-! ## 4. The scripts that a resolver asks for -/

/-- The events of work in two parts. -/
theorem Resolving.events_bind {α β : Type} {known : Text → Except Escape Verdict}
    {below : Text → List Event} (r : Resolving α) (next : α → Resolving β) :
    (r.bind next).events known below =
      r.events known below ++ onReturn (r.settle known) fun value =>
        (next value).events known below := by
  induction r with
  | done value => rfl
  | fail escape => rfl
  | reference id ask ih =>
    simp only [Resolving.bind, Resolving.events, Resolving.settle, ih, List.append_assoc]
    cases known id <;> rfl

namespace Script

variable {data : Data} {env : Environment} {known : Text → Except Escape Verdict}
  {below : Text → List Event}

/-- The names that stand for scripts, in order. -/
def references (data : Data) (env : Environment) (names : List Text) : List Text :=
  names.filter fun name => meaning data env name = .script

mutual

/-- A piece that resolves asks for the scripts among its names. -/
theorem events_resolve :
    ∀ {node : Node} {piece : Resolved}, (node.resolve data env).settle known = .ok piece →
      (node.resolve data env).events known below =
        (references data env node.names).flatMap below
  | .identifier name range, piece, _ => by
    rw [Node.resolve, resolveName, Node.names, references]
    cases found : meaning data env name with
    | script =>
      -- The one question of a name is its own; nothing follows its answer.
      have silent : onReturn (known name) (fun _ => []) = [] := by
        cases known name <;> rfl
      simp [found, Resolving.events, silent]
    | _ => simp [found, Resolving.events]
  | .hex value range, piece, _ => by
    rw [Node.resolve, Node.names]
    rfl
  | .group bracket items range, piece, settled => by
    obtain ⟨inner, resolved, -⟩ := exists_of_settle_resolve_group settled
    rw [Node.resolve, Node.names, Resolving.events_bind, events_resolveAll resolved, resolved]
    exact List.append_nil _

/-- **A row of pieces that resolves asks for the scripts among its names**, one by one and from left
to right. -/
theorem events_resolveAll :
    ∀ {nodes : List Node} {pieces : List Resolved},
      (resolveAll data env nodes).settle known = .ok pieces →
        (resolveAll data env nodes).events known below =
          (references data env (namesAll nodes)).flatMap below
  | [], pieces, _ => by
    rw [resolveAll, namesAll]
    rfl
  | node :: rest, pieces, settled => by
    obtain ⟨first, others, hf, ho, rfl⟩ := exists_of_settle_resolveAll_cons settled
    rw [resolveAll, namesAll, Resolving.events_bind, hf, events_resolve hf]
    show _ ++ ((resolveAll data env rest).bind _).events known below = _
    rw [Resolving.events_bind, ho, events_resolveAll ho, references, references, references,
      List.filter_append, List.flatMap_append]
    exact congrArg _ (List.append_nil _)

end

end Script

namespace Toolchain

open Script

/-- **All calls of a text that parses and resolves.**  It is parsed, its resolver is created and
called, and makes the calls of the scripts among the names of the text; then the errors are
collected, and the text is reduced if there are none. -/
theorem calls_compileText {data : Data} {env : Environment} {text : Text} {tree : List Node}
    {pieces : List Resolved} (parsed : Script.parse text = .ok tree)
    (settled : (resolveAll data env tree).settle (standard.verdictOutcome data env) = .ok pieces)
    (ambient : Ambient) :
    (standard.compileText data env text).calls ambient =
      .parse text ambient.trace :: .createResolver env.ancestry :: .resolve text ::
        ((references data env (namesAll tree)).flatMap (fun name =>
          (standard.compileReference data env name).calls ambient) ++
        .collect text (collectErrors pieces).length ::
          if collectErrors pieces = [] then [.reduce text env.capabilities] else []) := by
  have asked : (standard.resolve data env tree).events (standard.verdictOutcome data env)
      (standard.referenceEvents data env) =
        (references data env (namesAll tree)).flatMap (standard.referenceEvents data env) :=
    events_resolveAll settled
  have resolves : (standard.resolve data env tree).settle (standard.verdictOutcome data env) =
      .ok pieces := settled
  have below : (fun name => (standard.compileReference data env name).calls ambient) =
      fun name => Event.calls ambient.trace (standard.referenceEvents data env name) :=
    funext fun name => (standard.does_compileReference data env name).calls_eq ambient
  have events : standard.textEvents data env text =
      [.own (.parse text), .own (.createResolver env.ancestry), .own (.resolve text)] ++
        ((references data env (namesAll tree)).flatMap (standard.referenceEvents data env) ++
          standard.resolvedEvents env text pieces) := by
    unfold textEvents stagesEvents parsedEvents
    rw [parse_standard, parsed]
    simp only [onReturn, resolves, asked]
    rfl
  rw [(standard.does_compileText data env text).calls_eq, events, Event.calls_append,
    Event.calls_append, Event.calls_flatMap, calls_resolvedEvents, collect_standard, below]
  rfl

end Toolchain

end ScriptTemplate
