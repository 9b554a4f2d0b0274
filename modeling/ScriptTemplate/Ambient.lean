/-
# What surrounds a compilation

A compilation reads and changes its surroundings: the trace, the metrics, the log, a clock and a
supply of ids.  All of it is one value, `Ambient`, which passes through every step; a step ends
with a value or with an escape, and the surroundings go on either way.

The journal lists the calls of toolchain stages with what they saw.  Nothing reads it back, so it
decides nothing; it is there to be looked at.
-/
import ScriptTemplate.Environment
import ScriptTemplate.Escape
import ScriptTemplate.Log.Record
import ScriptTemplate.Metrics

namespace ScriptTemplate

/-- What the outside world supplies: clock readings and fresh ids by number, and the time that is
written in log lines. -/
structure Host where
  clock : Nat → Float
  freshId : Nat → Text
  timestamp : Text
deriving Inhabited

/-- A call of a toolchain stage, with what it saw. -/
inductive StageCall
  | parse (text : Text) (trace : Trace)
  | createResolver (ancestry : List Text)
  | resolve (text : Text)
  | collect (text : Text) (errors : Nat)
  | reduce (text : Text) (capabilities : Capabilities)
deriving Repr, Inhabited

/-- The surroundings of a compilation. -/
structure Ambient where
  host : Host
  trace : Trace := {}
  metrics : Metrics.Registry := {}
  /-- How often the clock was read. -/
  readings : Nat := 0
  /-- How many ids were drawn. -/
  drawn : Nat := 0
  /-- Where log records go, if anywhere. -/
  sink : Option Log.Sink := none
  /-- The log lines written, oldest first. -/
  lines : List Log.Line := []
  /-- The stage calls made, oldest first. -/
  journal : List StageCall := []
deriving Inhabited

/-- A step in its surroundings. -/
def CompileM (α : Type) : Type := Ambient → Except Escape α × Ambient

namespace CompileM

variable {α β : Type}

/-- Runs a step. -/
def run (step : CompileM α) (ambient : Ambient) : Except Escape α × Ambient := step ambient

instance : Monad CompileM where
  pure a := fun ambient => (.ok a, ambient)
  bind step next := fun ambient =>
    match step ambient with
    | (.ok a, after) => next a after
    | (.error escape, after) => (.error escape, after)

@[simp] theorem run_pure (a : α) (ambient : Ambient) :
    run (pure a) ambient = (.ok a, ambient) := rfl

theorem run_bind (step : CompileM α) (next : α → CompileM β) (ambient : Ambient) :
    run (step >>= next) ambient =
      match run step ambient with
      | (.ok a, after) => run (next a) after
      | (.error escape, after) => (.error escape, after) := rfl

instance : LawfulMonad CompileM := LawfulMonad.mk' CompileM
  (fun step => funext fun ambient => by
    show (match step ambient with
      | (.ok a, after) => (.ok a, after)
      | (.error escape, after) => (.error escape, after)) = step ambient
    rcases step ambient with ⟨(_ | _), _⟩ <;> rfl)
  (fun _ _ => rfl)
  (fun step f g => funext fun ambient => by
    show (match (match step ambient with
        | (.ok a, after) => f a after
        | (.error escape, after) => (.error escape, after)) with
      | (.ok b, after) => g b after
      | (.error escape, after) => (.error escape, after)) =
      (match step ambient with
        | (.ok a, after) => (match f a after with
          | (.ok b, after) => g b after
          | (.error escape, after) => (.error escape, after))
        | (.error escape, after) => (.error escape, after))
    rcases step ambient with ⟨(_ | _), _⟩ <;> rfl)

/-- Changes the surroundings. -/
def update (change : Ambient → Ambient) : CompileM Unit := fun ambient => (.ok (), change ambient)

/-- A value that may be an escape. -/
def ofExcept (outcome : Except Escape α) : CompileM α := fun ambient => (outcome, ambient)

/-- Does a step under a changed trace, and puts the trace back however the step ends. -/
def within (change : TraceChange) (step : CompileM α) : CompileM α := fun ambient =>
  let (outcome, after) := step { ambient with trace := ambient.trace.change change }
  (outcome, { after with trace := ambient.trace })

/-- **A changed trace is put back.** -/
@[simp] theorem trace_within (change : TraceChange) (step : CompileM α) (ambient : Ambient) :
    (run (within change step) ambient).2.trace = ambient.trace := rfl

/-- Reads the clock. -/
def readClock : CompileM Float := fun ambient =>
  (.ok (ambient.host.clock ambient.readings), { ambient with readings := ambient.readings + 1 })

/-- The compilation id that is set, or a fresh one. -/
def compilationId : CompileM Text := fun ambient =>
  match normalizedId ambient.trace.compilationId with
  | some id => (.ok id, ambient)
  | none =>
    (.ok (ambient.host.freshId (ambient.drawn + 1)), { ambient with drawn := ambient.drawn + 1 })

/-- Writes a record with gaps and an attachment, if the sink lets its level through. -/
def logFilled (level : Log.Level) (logger : Text) (template : Json) (values : Log.Values)
    (attachment : Option Log.Attachment) : CompileM Unit := update fun ambient =>
  match ambient.sink with
  | none => ambient
  | some sink =>
    if level.passes sink.threshold then
      let record : Log.Record := {
        template, values, attachment
        label := .str level.name
        logger := .str (Log.loggerName logger)
        origin := Log.Origin.ofTrace ambient.trace }
      { ambient with lines := ambient.lines ++ [⟨sink.layout, record⟩] }
    else ambient

/-- Writes a record of a plain message, if the sink lets its level through. -/
def log (level : Log.Level) (logger message : Text) : CompileM Unit :=
  logFilled level logger (.str message) .none none

/-- Notes a stage call. -/
def note (call : StageCall) : CompileM Unit := update fun ambient =>
  { ambient with journal := ambient.journal ++ [call] }

/-- Notes that a text is about to be parsed, under the current trace. -/
def noteParse (text : Text) : CompileM Unit := update fun ambient =>
  { ambient with journal := ambient.journal ++ [.parse text ambient.trace] }

/-- Changes the metrics. -/
def measure (change : Metrics.Registry → Metrics.Registry) : CompileM Unit := update fun ambient =>
  { ambient with metrics := change ambient.metrics }

end CompileM

end ScriptTemplate
