/-
# What the metrics say of a session

A session is any row of calls, on any toolchains and environments, some of which escape.  The
metrics count top-level compilations, in three instruments that are set at different moments; and
every top-level compilation runs through the same functions as the scripts that it refers to and the
wrappers that it is put into.

* `LabeledCounter.Counts` says which row of labels a counter has counted, and `Registry.Tallies`
  which row of results a registry has recorded.  Both are kept by one more.
* **What is done on the way is not recorded**: no event of a compilation touches the three
  instruments (`sameTallies_foldl`).
* `Invocation.records_run` says all that one call does to them: nothing, or one record of the result
  that it has reached.  The session follows by induction (`tallies_session`).

A call that escapes records nothing, also where it has come as far as the transform.
-/
import Mathlib
import ScriptTemplate.Compiler
import ScriptTemplate.Proofs.AmbientIndependence
import ScriptTemplate.Proofs.Chronicle
import ScriptTemplate.Proofs.ResultShape

namespace ScriptTemplate

open Metrics

/-! ## 1. Counters -/

namespace Dictionary

variable {α : Type}

theorem any_iff_mem_names (entries : Dictionary α) (name : Text) :
    entries.any (·.1 == name) = true ↔ name ∈ entries.names := by
  simp only [List.any_eq_true, beq_iff_eq, names, List.mem_map]

/-- Giving a value adds a name at the end, if the name is new. -/
theorem names_insert (entries : Dictionary α) (name : Text) (value : α) :
    (entries.insert name value).names =
      if name ∈ entries.names then entries.names else entries.names ++ [name] := by
  unfold insert
  by_cases found : name ∈ entries.names
  · rw [if_pos ((any_iff_mem_names entries name).mpr found), if_pos found, names, names,
      List.map_map]
    refine List.map_congr_left fun entry _ => ?_
    by_cases same : entry.1 = name <;> simp [same]
  · rw [if_neg (mt (any_iff_mem_names entries name).mp found), if_neg found]
    simp [names]

theorem nodup_names_insert {entries : Dictionary α} (distinct : entries.names.Nodup) (name : Text)
    (value : α) : (entries.insert name value).names.Nodup := by
  rw [names_insert]
  split
  · exact distinct
  · next new =>
    rw [← List.concat_eq_append]
    exact distinct.concat new

/-- Replacing a name that has no entry replaces nothing. -/
theorem map_replace_of_not_mem {entries : Dictionary α} {name : Text} (new : name ∉ entries.names)
    (value : α) :
    (entries.map fun entry => if entry.1 == name then (name, value) else entry) = entries := by
  have kept : ∀ entry ∈ entries, (if entry.1 == name then (name, value) else entry) = entry := by
    intro entry member
    refine if_neg fun same => new ?_
    exact List.mem_map.mpr ⟨entry, member, beq_iff_eq.mp same⟩
  exact (List.map_congr_left kept).trans (List.map_id' entries)

end Dictionary

namespace Metrics.LabeledCounter

theorem total_cons (entry : Text × Nat) (entries : Dictionary Nat) :
    total ⟨entry :: entries⟩ = entry.2 + total ⟨entries⟩ := rfl

/-- An entry that is added at the end adds its count. -/
theorem total_concat (entries : Dictionary Nat) (entry : Text × Nat) :
    total ⟨entries ++ [entry]⟩ = total ⟨entries⟩ + entry.2 := by
  induction entries with
  | nil => simp [total]
  | cons first rest ih => rw [List.cons_append, total_cons, total_cons, ih, Nat.add_assoc]

/-- A count that takes the place of another changes the sum by the difference. -/
theorem total_replace {entries : Dictionary Nat} (distinct : entries.names.Nodup) {name : Text}
    {old : Nat} (found : entries.lookup name = some old) (value : Nat) :
    total ⟨entries.map fun entry => if entry.1 == name then (name, value) else entry⟩ + old =
      total ⟨entries⟩ + value := by
  induction entries with
  | nil => cases found
  | cons entry rest ih =>
    obtain ⟨other, held⟩ := entry
    obtain ⟨new, distinct⟩ := List.nodup_cons.mp distinct
    rw [List.map_cons, total_cons, total_cons]
    by_cases same : name = other
    · subst same
      obtain rfl : held = old := by simpa using found
      -- No later entry has the name, so the rest stays as it is.
      rw [Dictionary.map_replace_of_not_mem new]
      simp only [beq_self_eq_true, if_true]
      omega
    · have apart : (name == other) = false := beq_eq_false_iff_ne.mpr same
      have apart' : (other == name) = false := beq_eq_false_iff_ne.mpr (Ne.symm same)
      have later := ih distinct (by simpa only [List.lookup_cons, apart] using found)
      simp only [apart', Bool.false_eq_true, if_false]
      omega

/-- **One more label is one more in the sum.** -/
theorem total_increment {counter : LabeledCounter} (distinct : counter.counts.names.Nodup)
    (label : Text) : (counter.increment label).total = counter.total + 1 := by
  obtain ⟨entries⟩ := counter
  replace distinct : entries.names.Nodup := distinct
  rw [increment, Dictionary.insert, value]
  by_cases found : label ∈ entries.names
  · rw [if_pos ((Dictionary.any_iff_mem_names entries label).mpr found)]
    have counted : (entries.lookup label).isSome := by
      rw [← Dictionary.any_eq_isSome_lookup, Dictionary.any_iff_mem_names]
      exact found
    obtain ⟨old, there⟩ := Option.isSome_iff_exists.mp counted
    have replaced := total_replace distinct there (old + 1)
    rw [there, Option.getD_some]
    dsimp only
    omega
  · rw [if_neg (mt (Dictionary.any_iff_mem_names entries label).mp found), total_concat]
    have uncounted : entries.lookup label = none := by
      rw [← Option.not_isSome_iff_eq_none, ← Dictionary.any_eq_isSome_lookup]
      exact mt (Dictionary.any_iff_mem_names entries label).mp found
    rw [uncounted, Option.getD_none]

theorem value_increment (counter : LabeledCounter) (label other : Text) :
    (counter.increment label).value other =
      counter.value other + if other = label then 1 else 0 := by
  unfold increment value
  rw [Dictionary.lookup_insert]
  by_cases same : other = label
  · rw [if_pos same, if_pos same, same]
    rfl
  · rw [if_neg same, if_neg same]
    rfl

/-- **A counter has counted a row of labels**: it has one entry a label, each label as often as it
is in the row, and the sum is the length of the row. -/
structure Counts (counter : LabeledCounter) (labels : List Text) : Prop where
  distinct : counter.counts.names.Nodup
  value : ∀ label, counter.value label = labels.count label
  total : counter.total = labels.length

theorem counts_empty : Counts {} [] := ⟨List.nodup_nil, fun _ => rfl, rfl⟩

/-- **One more label is counted.** -/
theorem Counts.increment {counter : LabeledCounter} {labels : List Text}
    (counts : counter.Counts labels) (label : Text) :
    (counter.increment label).Counts (labels ++ [label]) where
  distinct := Dictionary.nodup_names_insert counts.distinct label _
  value other := by
    rw [value_increment, counts.value, List.count_append, List.count_singleton]
    by_cases same : other = label
    · simp [same]
    · simp [same, Ne.symm same]
  total := by
    rw [total_increment counts.distinct, counts.total, List.length_append, List.length_singleton]

end Metrics.LabeledCounter

/-! ## 2. Registries -/

/-- A result that a top-level compilation has reached, with whatever toolchain. -/
structure Reached where
  {τ ρ σ : Type}
  result : Result τ ρ σ

namespace Reached

/-- The result that a compilation ends with, unless it escapes. -/
def of? {τ ρ σ : Type} : Except Escape (Result τ ρ σ) → Option Reached
  | .ok result => some ⟨result⟩
  | .error _ => none

/-- The label that the result is counted under. -/
def label (reached : Reached) : Text := reached.result.label

/-- The label of the transform that the result carries. -/
def transformLabel? (reached : Reached) : Option Text :=
  reached.result.transform?.map Vocabulary.word

/-- Whether the result is a success. -/
def succeeded (reached : Reached) : Bool := reached.result.succeeded

/-- Whether the result is a failure at a stage. -/
def failedAt (stage : Stage) (reached : Reached) : Bool :=
  match reached.result with
  | .success _ => false
  | .failure outcome => outcome.stage = stage

/-- Whether the result is a success that carries a transform. -/
def carries (transform : Transform) (reached : Reached) : Bool :=
  match reached.result with
  | .success outcome => outcome.transform = some transform
  | .failure _ => false

end Reached

/-- The word for success is not the word of a stage. -/
theorem Stage.word_ne_success (stage : Stage) : Vocabulary.word stage ≠ ("success" : Text) := by
  cases stage <;> decide

/-- No two members of a vocabulary share a word. -/
theorem Vocabulary.word_inj {α : Type} [Vocabulary α] {a b : α} :
    Vocabulary.word a = Vocabulary.word b ↔ a = b := by
  refine ⟨fun same => ?_, congrArg _⟩
  have found := Vocabulary.ofWord?_word a
  rw [same, Vocabulary.ofWord?_word b] at found
  exact (Option.some.inj found).symm

namespace Reached

theorem label_eq_success_iff (reached : Reached) :
    reached.label = ("success" : Text) ↔ reached.succeeded = true := by
  obtain ⟨_ | outcome⟩ := reached
  · exact iff_of_true rfl rfl
  · exact iff_of_false outcome.stage.word_ne_success Bool.false_ne_true

theorem label_eq_word_iff (stage : Stage) (reached : Reached) :
    reached.label = Vocabulary.word stage ↔ reached.failedAt stage = true := by
  obtain ⟨_ | outcome⟩ := reached
  · exact iff_of_false stage.word_ne_success.symm Bool.false_ne_true
  · exact Vocabulary.word_inj.trans decide_eq_true_iff.symm

theorem transformLabel?_eq_word_iff (transform : Transform) (reached : Reached) :
    reached.transformLabel? = some (Vocabulary.word transform) ↔
      reached.carries transform = true := by
  obtain ⟨⟨_, _, carried⟩ | _⟩ := reached
  · simp [transformLabel?, carries, Result.transform?, Vocabulary.word_inj]
  · simp [transformLabel?, carries, Result.transform?]

/-- Only a success carries a transform. -/
theorem succeeded_of_transformLabel? {reached : Reached} (h : reached.transformLabel?.isSome) :
    reached.succeeded = true := by
  obtain ⟨_ | _⟩ := reached
  · rfl
  · cases h

end Reached

namespace Metrics.Registry

/-- The registry once a result is recorded. -/
def recorded (r : Registry) (reached : Reached) (seconds : Float) : Registry :=
  r.record reached.label (.float seconds) reached.transformLabel?

/-- Two registries agree on what is recorded of top-level compilations. -/
structure SameTallies (before after : Registry) : Prop where
  compilations : after.compilations = before.compilations
  transforms : after.transforms = before.transforms
  seconds : after.compilationSeconds = before.compilationSeconds

/-- **A registry has recorded a row of results.** -/
structure Tallies (r : Registry) (results : List Reached) : Prop where
  outcomes : r.compilations.Counts (results.map Reached.label)
  durations : r.compilationSeconds.count = results.length
  transforms : r.transforms.Counts (results.filterMap Reached.transformLabel?)

theorem tallies_empty : Tallies {} [] where
  outcomes := LabeledCounter.counts_empty
  durations := rfl
  transforms := LabeledCounter.counts_empty

theorem Tallies.of_same {before after : Registry} {results : List Reached}
    (tallies : before.Tallies results) (same : before.SameTallies after) :
    after.Tallies results where
  outcomes := same.compilations ▸ tallies.outcomes
  durations := same.seconds ▸ tallies.durations
  transforms := same.transforms ▸ tallies.transforms

/-- **One more result is recorded**: its label is counted, its duration is observed, and its
transform is counted if it carries one. -/
theorem Tallies.recorded {r : Registry} {results : List Reached} (tallies : r.Tallies results)
    (reached : Reached) (seconds : Float) :
    (r.recorded reached seconds).Tallies (results ++ [reached]) where
  outcomes := by
    rw [List.map_append]
    exact tallies.outcomes.increment reached.label
  durations := by
    rw [List.length_append, List.length_singleton, ← tallies.durations]
    rfl
  transforms := by
    rw [List.filterMap_append]
    cases carried : reached.transformLabel? with
    | none => simpa [Registry.recorded, record, carried] using tallies.transforms
    | some label =>
      simpa [Registry.recorded, record, carried, Histogram.canAdd] using
        tallies.transforms.increment label

/-- **The accounts of a registry**, in terms of the results themselves. -/
structure Accounts (r : Registry) (results : List Reached) : Prop where
  total : r.compilations.total = results.length
  timed : r.compilationSeconds.count = results.length
  successes : r.compilations.value "success" = results.countP Reached.succeeded
  failures : ∀ stage, r.compilations.value (Vocabulary.word stage) =
    results.countP (Reached.failedAt stage)
  transforms : ∀ transform, r.transforms.value (Vocabulary.word transform) =
    results.countP (Reached.carries transform)
  /-- No other label is counted among the transforms. -/
  transformed : r.transforms.total =
    results.countP fun reached => reached.result.transform?.isSome
  transformed_le : r.transforms.total ≤ r.compilations.value "success"

theorem Tallies.accounts {r : Registry} {results : List Reached} (tallies : r.Tallies results) :
    r.Accounts results := by
  have successes : r.compilations.value "success" = results.countP Reached.succeeded := by
    rw [tallies.outcomes.value, List.count, List.countP_map]
    refine List.countP_congr fun reached _ => ?_
    exact beq_iff_eq.trans reached.label_eq_success_iff
  have transformed : r.transforms.total =
      results.countP fun reached => reached.transformLabel?.isSome := by
    rw [tallies.transforms.total, List.length_filterMap_eq_countP]
  refine ⟨?_, tallies.durations, successes, ?_, ?_, ?_, ?_⟩
  · rw [tallies.outcomes.total, List.length_map]
  · intro stage
    rw [tallies.outcomes.value, List.count, List.countP_map]
    refine List.countP_congr fun reached _ => ?_
    exact beq_iff_eq.trans (reached.label_eq_word_iff stage)
  · intro transform
    rw [tallies.transforms.value, List.count, List.countP_filterMap]
    refine List.countP_congr fun reached _ => ?_
    rw [← reached.transformLabel?_eq_word_iff transform]
    cases reached.transformLabel? <;> simp
  · rw [transformed]
    simp only [Reached.transformLabel?, Option.isSome_map]
  · rw [transformed, successes]
    exact List.countP_mono_left fun _ _ carried => Reached.succeeded_of_transformLabel? carried

end Metrics.Registry

/-! ## 3. Calls -/

namespace Metrics.Registry

theorem SameTallies.refl (r : Registry) : r.SameTallies r := ⟨rfl, rfl, rfl⟩

theorem SameTallies.trans {a b c : Registry} (first : a.SameTallies b) (second : b.SameTallies c) :
    a.SameTallies c where
  compilations := second.compilations.trans first.compilations
  transforms := second.transforms.trans first.transforms
  seconds := second.seconds.trans first.seconds

/-- **What is done on the way is not recorded.** -/
theorem sameTallies_measure (r : Registry) (event : Event) : r.SameTallies (event.measure r) := by
  obtain ⟨place, action⟩ := event
  cases action <;> exact ⟨rfl, rfl, rfl⟩

theorem sameTallies_foldl (r : Registry) (events : List Event) :
    r.SameTallies (events.foldl Event.measure r) := by
  induction events generalizing r with
  | nil => exact .refl r
  | cons event rest ih => exact (r.sameTallies_measure event).trans (ih (event.measure r))

/-- **What a call does to the tallies**: nothing, or one record of the result that it reaches. -/
inductive Records (before : Registry) : Option Reached → Registry → Prop
  | nothing {after : Registry} (same : before.SameTallies after) : Records before none after
  | result {middle : Registry} (same : before.SameTallies middle) (reached : Reached)
    (seconds : Float) : Records before (some reached) (middle.recorded reached seconds)

theorem Records.tallies {before after : Registry} {reached : Option Reached}
    {results : List Reached} (records : before.Records reached after)
    (tallies : before.Tallies results) : after.Tallies (results ++ reached.toList) := by
  cases records with
  | nothing same =>
    rw [Option.toList_none, List.append_nil]
    exact tallies.of_same same
  | result same reached seconds => exact (tallies.of_same same).recorded reached seconds

end Metrics.Registry

namespace Toolchain

variable {τ ρ σ : Type}

/-- The metrics after a top-level compilation: its events, and then its record if it returns. -/
theorem metrics_compile (T : Toolchain τ ρ σ) (data : Data) (env : Environment) (id : Text)
    (ambient : Ambient) :
    ((T.compile data env id).run ambient).2.metrics =
      match T.scriptOutcome data env id with
      | .error _ => (T.gatedEvents data env id).foldl Event.measure ambient.metrics
      | .ok result => ((T.gatedEvents data env id).foldl Event.measure ambient.metrics).recorded
          ⟨result⟩ ambient.duration := by
  rw [T.run_compile data env id ambient]
  cases T.scriptOutcome data env id <;> rfl

/-- **A top-level compilation records the result that it reaches.** -/
theorem records_compile (T : Toolchain τ ρ σ) (data : Data) (env : Environment) (id : Text)
    (ambient : Ambient) :
    ambient.metrics.Records (Reached.of? ((T.compile data env id).run ambient).1)
      ((T.compile data env id).run ambient).2.metrics := by
  have same := ambient.metrics.sameTallies_foldl (T.gatedEvents data env id)
  rw [T.yields_compile data env id ambient, T.metrics_compile data env id ambient]
  cases T.scriptOutcome data env id with
  | error escape => exact .nothing same
  | ok result => exact .result same ⟨result⟩ ambient.duration

/-- A script without gate and transform records nothing. -/
theorem sameTallies_compileReference (T : Toolchain τ ρ σ) (data : Data) (env : Environment)
    (id : Text) (ambient : Ambient) :
    ambient.metrics.SameTallies ((T.compileReference data env id).run ambient).2.metrics := by
  rw [T.does_compileReference data env id ambient]
  exact ambient.metrics.sameTallies_foldl _

/-- A text without an id records nothing. -/
theorem sameTallies_compileText (T : Toolchain τ ρ σ) (data : Data) (env : Environment)
    (text : Text) (ambient : Ambient) :
    ambient.metrics.SameTallies ((T.compileText data env text).run ambient).2.metrics := by
  rw [T.does_compileText data env text ambient]
  exact ambient.metrics.sameTallies_foldl _

end Toolchain

/-- Asking for bytecode is a top-level compilation, whatever becomes of its result. -/
theorem Compiler.run_bytecode {τ ρ σ : Type} (compiler : Compiler τ ρ σ) (data : Data) (id : Text)
    (ambient : Ambient) :
    ((compiler.bytecode data id).run ambient).2 = ((compiler.compile data id).run ambient).2 := by
  unfold bytecode
  rw [CompileM.run_bind]
  rcases (compiler.compile data id).run ambient with ⟨_ | _ | _, after⟩ <;> rfl

/-- A call of the library: of one of the three ways in, or of a compiler's methods. -/
inductive Invocation
  | request (asked : Compilation)
  | compile {τ ρ σ : Type} (compiler : Compiler τ ρ σ) (data : Data) (id : Text)
  | compileReference {τ ρ σ : Type} (compiler : Compiler τ ρ σ) (data : Data) (id : Text)
  | compileText {τ ρ σ : Type} (compiler : Compiler τ ρ σ) (data : Data) (text : Text)
  | bytecode {τ ρ σ : Type} (compiler : Compiler τ ρ σ) (data : Data) (id : Text)

namespace Invocation

/-- What a call leaves of the surroundings, however it ends. -/
def run (ambient : Ambient) : Invocation → Ambient
  | .request asked => (asked.perform.run ambient).2
  | .compile compiler data id => ((compiler.compile data id).run ambient).2
  | .compileReference compiler data id => ((compiler.compileReference data id).run ambient).2
  | .compileText compiler data text => ((compiler.compileText data text).run ambient).2
  | .bytecode compiler data id => ((compiler.bytecode data id).run ambient).2

/-- The result of the top-level compilation that a call makes, if it makes one and this does not
escape. -/
def reached? (ambient : Ambient) : Invocation → Option Reached
  | .request ⟨toolchain, data, env, .script id⟩ =>
    Reached.of? ((toolchain.compile data env id).run ambient).1
  | .compile compiler data id => Reached.of? ((compiler.compile data id).run ambient).1
  | .bytecode compiler data id => Reached.of? ((compiler.compile data id).run ambient).1
  | .request ⟨_, _, _, .reference _⟩ | .request ⟨_, _, _, .body _⟩ => none
  | .compileReference .. | .compileText .. => none

/-- **Every call records the result that it reaches, and nothing else.** -/
theorem records_run (call : Invocation) (ambient : Ambient) :
    ambient.metrics.Records (call.reached? ambient) (call.run ambient).metrics := by
  cases call with
  | request asked =>
    obtain ⟨toolchain, data, env, request⟩ := asked
    cases request with
    | script id => exact toolchain.records_compile data env id ambient
    | reference id => exact .nothing (toolchain.sameTallies_compileReference data env id ambient)
    | body text => exact .nothing (toolchain.sameTallies_compileText data env text ambient)
  | compile compiler data id => exact compiler.toolchain.records_compile data _ id ambient
  | compileReference compiler data id =>
    exact .nothing (compiler.toolchain.sameTallies_compileReference data _ id ambient)
  | compileText compiler data text =>
    exact .nothing (compiler.toolchain.sameTallies_compileText data _ text ambient)
  | bytecode compiler data id =>
    rw [run, compiler.run_bytecode data id ambient]
    exact compiler.toolchain.records_compile data _ id ambient

end Invocation

/-! ## 4. Sessions -/

/-- A session: the results that its calls reach, in order, and what it leaves of the
surroundings. -/
def session (ambient : Ambient) : List Invocation → List Reached × Ambient
  | [] => ([], ambient)
  | call :: rest =>
    let (results, after) := session (call.run ambient) rest
    ((call.reached? ambient).toList ++ results, after)

/-- **A session records the results that its calls reach**, after those recorded before. -/
theorem tallies_session {ambient : Ambient} {earlier : List Reached}
    (tallies : ambient.metrics.Tallies earlier) (calls : List Invocation) :
    (session ambient calls).2.metrics.Tallies (earlier ++ (session ambient calls).1) := by
  induction calls generalizing ambient earlier with
  | nil =>
    rw [session, List.append_nil]
    exact tallies
  | cons call rest ih =>
    have next := ih ((call.records_run ambient).tallies tallies)
    rw [List.append_assoc] at next
    exact next

/-- **The metrics count top-level compilations exactly, over whole sessions.**  After a reset and
any row of calls, on any toolchains and in any surroundings, the accounts are those of the results
that top-level compilations have reached.  A call that reaches none adds nothing: this is so for
scripts without gate and transform, for texts, and for every call that escapes. -/
theorem session_accounted (ambient : Ambient) (calls : List Invocation) :
    (session { ambient with metrics := {} } calls).2.metrics.Accounts
      (session { ambient with metrics := {} } calls).1 ∧
    ∀ (before : Ambient) (call : Invocation), call.reached? before = none →
      before.metrics.SameTallies (call.run before).metrics := by
  constructor
  · have empty : ({ ambient with metrics := {} } : Ambient).metrics.Tallies [] :=
      Registry.tallies_empty
    exact (tallies_session empty calls).accounts
  · intro before call unreached
    have records := call.records_run before
    rw [unreached] at records
    cases records with
    | nothing same => exact same

/-- A compiler for a locking script of type `p2sh` and the script that unlocks it. -/
def pairedCompiler : Compiler (List Script.Node) (List Script.Resolved) Machine.State :=
  .create .standard Toolchain.pairedEnvironment {}

/-- A call that escapes, a success that is transformed, a text, and a failure. -/
def mixedCalls : List Invocation := [
  .request escapingCompilation,
  .compile pairedCompiler {} "lock",
  .compileText pairedCompiler {} "OP_1",
  .bytecode pairedCompiler {} "nowhere"]

theorem reached?_escapingCompilation (ambient : Ambient) :
    (Invocation.request escapingCompilation).reached? ambient = none := by
  have escapes : Toolchain.standard.scriptOutcome {} escapingCompilation.environment "a" =
      .error .truncatedPush := by cbv
  have ran := (Toolchain.standard.yields_compile {} escapingCompilation.environment "a"
    ambient).trans escapes
  exact congrArg Reached.of? ran

/-- Two results are reached in the session: a success that is transformed and a failure to parse. -/
theorem exists_reached_mixedCalls (ambient : Ambient) :
    ∃ (success : Toolchain.ScriptSuccess) (failure : Toolchain.ScriptFailure),
      success.transform = some .p2shLocking ∧ failure.stage = .parse ∧
        (session ambient mixedCalls).1 = [⟨.success success⟩, ⟨.failure failure⟩] := by
  obtain ⟨success, locked, marked⟩ := Operation.outcome_pairedEnvironment_lock
  have missing : Toolchain.pairedEnvironment.locate "nowhere" = .error (.unknown "nowhere") := by
    decide
  obtain ⟨failure, refused, stage⟩ : ∃ failure,
      Toolchain.standard.scriptOutcome {} Toolchain.pairedEnvironment "nowhere" =
        .ok (.failure failure) ∧ failure.stage = .parse :=
    ⟨_, Toolchain.scriptOutcome_of_failure (by decide)
      (Toolchain.standard.referenceOutcome_of_refused {} missing), rfl⟩
  have compiles (id : Text) (before : Ambient) :
      ((pairedCompiler.compile {} id).run before).1 =
        Toolchain.standard.scriptOutcome {} Toolchain.pairedEnvironment id :=
    Toolchain.standard.yields_compile {} Toolchain.pairedEnvironment id before
  refine ⟨success, failure, marked, stage, ?_⟩
  simp only [mixedCalls, session]
  rw [reached?_escapingCompilation]
  simp only [Invocation.reached?, compiles]
  rw [refused, show Toolchain.standard.scriptOutcome {} Toolchain.pairedEnvironment "lock" = _ from
    locked]
  rfl

/-- After a session with a call that escapes, a success, a text and a failure, two compilations are
counted, one of them with its transform. -/
theorem session_accounted_mixed :
    let metrics := (session { (default : Ambient) with metrics := {} } mixedCalls).2.metrics
    metrics.compilations.total = 2 ∧ metrics.compilationSeconds.count = 2 ∧
      metrics.compilations.value "success" = 1 ∧ metrics.compilations.value "parse" = 1 ∧
      metrics.transforms.value "p2sh-locking" = 1 ∧ metrics.transforms.total = 1 ∧
      metrics.SameTallies ((Invocation.request escapingCompilation).run
        (session { (default : Ambient) with metrics := {} } mixedCalls).2).metrics := by
  obtain ⟨accounts, unreached⟩ := session_accounted default mixedCalls
  obtain ⟨success, failure, marked, stage, results⟩ :=
    exists_reached_mixedCalls { (default : Ambient) with metrics := {} }
  rw [results] at accounts
  refine ⟨accounts.total, accounts.timed, accounts.successes, (accounts.failures .parse).trans ?_,
    (accounts.transforms .p2shLocking).trans ?_, accounts.transformed.trans ?_, ?_⟩
  · simp [Reached.failedAt, stage]
  · simp [Reached.carries, marked]
  · simp [Result.transform?, marked]
  · exact unreached _ _ (reached?_escapingCompilation _)

end ScriptTemplate
