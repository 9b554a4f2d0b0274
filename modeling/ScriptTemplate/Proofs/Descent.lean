/-
# How far down a compilation goes

Compiling a script may ask for other scripts, which may ask for others again, and nothing in a text
forbids that a script asks for itself.  This file follows the calls that are made on the way, for
EVERY toolchain: what a toolchain does is known here through the questions of its resolver alone.

* `Toolchain.Calls` is one step down: a script that is handed out, and a script that the resolver
  of its text asks for, one level deeper.
* **Everything that a run does is done in a call that its start leads to**
  (`ensures_compileReference`): a relation between the surroundings before and after holds of the
  whole run if it holds of the single steps in such calls.
* **The recursion ends.**  A step down leaves fewer scripts (`acc_calls`).  So a recursion that is
  cut off below as many levels as there are scripts left, and one more, never comes to the cut
  (`compileNested_eq`), whatever would happen there.
* **The ancestry is a chain of different scripts** (`Lineage`), each with a text and each asked for
  in the text of the one before.

`compileReference_descends` puts these together for the resolvers that a run creates.
-/
import Mathlib
import ScriptTemplate.Proofs.PureOutcome
import ScriptTemplate.Toolchain.Standard

namespace ScriptTemplate

/-! ## 1. Questions -/

/-- **A resolver asks for a script** on some way through its work. -/
inductive Resolving.Asks {α : Type} (id : Text) : Resolving α → Prop
  | now {next : Verdict → Resolving α} : Asks id (.reference id next)
  | later {other : Text} {next : Verdict → Resolving α} (verdict : Verdict)
    (asks : Asks id (next verdict)) : Asks id (.reference other next)

/-- A script to be compiled, and the environment for it. -/
abbrev Call := Environment × Text

namespace Toolchain

variable {τ ρ σ : Type}

/-- A text mentions a script if its resolver, created with this environment, asks for it. -/
def Mentions (T : Toolchain τ ρ σ) (data : Data) (env : Environment) (text id : Text) : Prop :=
  ∃ tree, T.parse text = .ok (.ok tree) ∧ (T.resolve data env tree).Asks id

/-- **One step down.**  The script is handed out, and its text mentions the next one. -/
inductive Calls (T : Toolchain τ ρ σ) (data : Data) : Call → Call → Prop
  | intro {env : Environment} {id text next : Text} (located : env.locate id = .ok text)
    (mentions : T.Mentions data (env.descend id) text next) :
    Calls T data (env, id) (env.descend id, next)

/-- A call leads to another through any number of steps down. -/
def Visits (T : Toolchain τ ρ σ) (data : Data) : Call → Call → Prop :=
  Relation.ReflTransGen (T.Calls data)

/-- **Steps down come to an end**: each leaves fewer scripts that are not in the ancestry. -/
theorem acc_calls (T : Toolchain τ ρ σ) (data : Data) (call : Call) :
    Acc (fun below above => T.Calls data above below) call := by
  have falls : Subrelation (fun below above => T.Calls data above below)
      (InvImage (· < ·) fun call : Call => call.1.pending) := by
    rintro _ _ ⟨located, -⟩
    exact Environment.pending_descend_lt located
  exact falls.accessible ((InvImage.wf _ Nat.lt_wfRel.wf).apply call)

end Toolchain

/-! ## 2. What a step does to its surroundings -/

namespace CompileM

variable {α β : Type} {R : Ambient → Ambient → Prop}

/-- **A step ensures a relation** between its surroundings before and after, however it ends. -/
def Ensures (step : CompileM α) (R : Ambient → Ambient → Prop) : Prop :=
  ∀ ambient, R ambient (step.run ambient).2

theorem Ensures.bind {step : CompileM α} {next : α → CompileM β} (first : step.Ensures R)
    (second : ∀ value, (next value).Ensures R) (trans : ∀ a b c, R a b → R b c → R a c) :
    (step >>= next).Ensures R := by
  intro ambient
  have before := first ambient
  rw [run_bind]
  rcases hs : step.run ambient with ⟨_ | value, after⟩
  · rw [hs] at before
    exact before
  · rw [hs] at before
    exact trans _ _ _ before (second value after)

end CompileM

namespace Toolchain

variable {τ ρ σ : Type}

/-- **A relation that the single steps of a run uphold**, the run being started by a call.  Creating
a resolver and counting a circular reference may depend on the call in which they happen. -/
structure Upheld (T : Toolchain τ ρ σ) (data : Data) (start : Call)
    (R : Ambient → Ambient → Prop) : Prop where
  refl (a : Ambient) : R a a
  trans (a b c : Ambient) : R a b → R b c → R a c
  /-- The trace does not matter. -/
  retraced {a b : Ambient} (during after : Trace) :
    R { a with trace := during } b → R a { b with trace := after }
  logged (a : Ambient) (lines : List Log.Line) : R a { a with lines }
  measured (a : Ambient) (depth : Number) : R a { a with metrics := a.metrics.observeDepth depth }
  noted (a : Ambient) (call : StageCall) (other : ∀ ancestry, call ≠ .createResolver ancestry) :
    R a { a with journal := a.journal ++ [call] }
  /-- A resolver is created for a script that was handed out. -/
  created (a : Ambient) {env : Environment} {id text : Text}
    (visited : T.Visits data start (env, id)) (located : env.locate id = .ok text) :
    R a { a with journal := a.journal ++ [.createResolver (env.descend id).ancestry] }
  /-- A circular reference is counted where a script is refused as its own ancestor. -/
  counted (a : Ambient) {env : Environment} {id other : Text} {ancestry : List Text}
    (visited : T.Visits data start (env, id))
    (refused : env.locate id = .error (.circular other ancestry)) :
    R a { a with metrics := a.metrics.countCycle }

section Run

variable {T : Toolchain τ ρ σ} {data : Data} {start : Call} {R : Ambient → Ambient → Prop}
  {env : Environment} {id text : Text}

open CompileM

theorem Upheld.log (upheld : T.Upheld data start R) (level : Log.Level) (logger message : Text) :
    (CompileM.log level logger message).Ensures R := by
  intro ambient
  unfold CompileM.log logFilled update CompileM.run
  dsimp only
  split
  · exact upheld.refl ambient
  · split
    · exact upheld.logged ambient _
    · exact upheld.refl ambient

theorem Upheld.bind (upheld : T.Upheld data start R) {α β : Type} {step : CompileM α}
    {next : α → CompileM β} (first : step.Ensures R) (second : ∀ value, (next value).Ensures R) :
    (step >>= next).Ensures R :=
  first.bind second upheld.trans

theorem Upheld.note (upheld : T.Upheld data start R) (call : StageCall)
    (other : ∀ ancestry, call ≠ .createResolver ancestry) : (CompileM.note call).Ensures R :=
  fun ambient => upheld.noted ambient call other

theorem Upheld.pure (upheld : T.Upheld data start R) {α : Type} (value : α) :
    (Pure.pure value : CompileM α).Ensures R :=
  fun ambient => upheld.refl ambient

theorem Upheld.ofExcept (upheld : T.Upheld data start R) {α : Type} (outcome : Except Escape α) :
    (CompileM.ofExcept outcome).Ensures R :=
  fun ambient => upheld.refl ambient

theorem Upheld.within (upheld : T.Upheld data start R) {α : Type} {step : CompileM α}
    (inside : step.Ensures R) (change : TraceChange) : (CompileM.within change step).Ensures R :=
  fun ambient => upheld.retraced _ ambient.trace (inside _)

/-- A resolver upholds what the answers to its questions uphold. -/
theorem Upheld.run (upheld : T.Upheld data start R) {α : Type} {answer : Text → CompileM Verdict}
    {r : Resolving α} (answers : ∀ other, r.Asks other → (answer other).Ensures R) :
    (r.run answer).Ensures R := by
  induction r with
  | done value => exact upheld.pure value
  | fail escape => exact upheld.ofExcept _
  | reference other next ih =>
    refine upheld.bind (answers other .now) fun verdict => ih verdict ?_
    exact fun id asks => answers id (.later verdict asks)

theorem Upheld.reduceStage (upheld : T.Upheld data start R) (env : Environment) (text : Text)
    (tree : τ) (resolved : ρ) : (T.reduceStage env text tree resolved).Ensures R := by
  unfold Toolchain.reduceStage
  refine upheld.bind (upheld.note _ (by simp)) fun _ => ?_
  refine upheld.bind (upheld.ofExcept _) fun reduction => ?_
  cases reduction with
  | bytecode bytecode states => exact upheld.pure _
  | errors first others states =>
    exact upheld.bind (upheld.log _ _ _) fun _ => upheld.pure _

theorem Upheld.resolveStage (upheld : T.Upheld data start R)
    (visited : T.Visits data start (env, id)) (located : env.locate id = .ok text)
    {answer : Text → CompileM Verdict} {tree : τ}
    (answers : ∀ other, (T.resolve data (env.descend id) tree).Asks other →
      (answer other).Ensures R) :
    (T.resolveStage data (env.descend id) answer text tree).Ensures R := by
  unfold Toolchain.resolveStage
  have created : (CompileM.note (.createResolver (env.descend id).ancestry)).Ensures R :=
    fun ambient => upheld.created ambient visited located
  refine upheld.bind created fun _ => ?_
  refine upheld.bind (upheld.note _ (by simp)) fun _ => ?_
  refine upheld.bind (upheld.run answers) fun resolved => ?_
  refine upheld.bind (upheld.note _ (by simp)) fun _ => ?_
  cases T.collect resolved with
  | nil => exact upheld.reduceStage _ text tree resolved
  | cons first others => exact upheld.bind (upheld.log _ _ _) fun _ => upheld.pure _

/-- The stages of a script that was handed out. -/
theorem Upheld.compileWith (upheld : T.Upheld data start R)
    (visited : T.Visits data start (env, id)) (located : env.locate id = .ok text)
    {answer : Text → CompileM Verdict}
    (answers : ∀ other, T.Mentions data (env.descend id) text other → (answer other).Ensures R) :
    (T.compileWith data (env.descend id) answer text).Ensures R := by
  unfold Toolchain.compileWith
  have noted : (CompileM.noteParse text).Ensures R :=
    fun ambient => upheld.noted ambient _ (by simp)
  refine upheld.bind noted fun _ => ?_
  cases parsed : T.parse text with
  | error escape => exact upheld.ofExcept _
  | ok outcome =>
    cases outcome with
    | error failure =>
      show (CompileM.log _ _ _ >>= fun _ => Pure.pure _).Ensures R
      exact upheld.bind (upheld.log _ _ _) fun _ => upheld.pure _
    | ok tree =>
      show (T.resolveStage data (env.descend id) answer text tree).Ensures R
      exact upheld.resolveStage visited located fun other asks =>
        answers other ⟨tree, parsed, asks⟩

/-! ## 3. One level of the recursion -/

/-- Compiles a script by its id, the scripts below it being compiled by `below`. -/
def compileLevel (T : Toolchain τ ρ σ) (data : Data)
    (below : Environment → Text → CompileM (Result τ ρ σ)) (env : Environment) (id : Text) :
    CompileM (Result τ ρ σ) :=
  CompileM.within (scriptTrace env id) do
    match env.locate id with
    | .error refusal => refuse refusal
    | .ok text =>
      CompileM.log .debug lookupLogger (enteringNote env id)
      CompileM.measure (·.observeDepth (.int env.ancestry.length))
      T.compileWith data (env.descend id)
        (fun other => do return (← below (env.descend id) other).verdict) text

/-- **Compiling a script is one level, and the same below.** -/
theorem compileReference_eq_level (T : Toolchain τ ρ σ) (data : Data) (env : Environment)
    (id : Text) :
    T.compileReference data env id = T.compileLevel data (T.compileReference data) env id := by
  rw [compileReference, compileLevel]
  congr 1
  split
  · next refusal found => simp only [found]
  · next text found => simp only [found]

theorem Upheld.refuse (upheld : T.Upheld data start R) (visited : T.Visits data start (env, id))
    {refusal : Refusal} (refused : env.locate id = .error refusal) :
    (refuse refusal : CompileM (Result τ ρ σ)).Ensures R := by
  unfold Toolchain.refuse
  refine upheld.bind (upheld.log _ _ _) fun _ => ?_
  cases refusal with
  | unknown id => exact upheld.pure _
  | circular other ancestry =>
    have counted : (CompileM.measure (·.countCycle)).Ensures R :=
      fun ambient => upheld.counted ambient visited refused
    exact upheld.bind counted fun _ => upheld.pure _
  | tooDeep id ancestry ceiling => exact upheld.pure _

/-- **Everything that a run does is done in a call that its start leads to.** -/
theorem ensures_compileReference (upheld : T.Upheld data start R)
    (visited : T.Visits data start (env, id)) : (T.compileReference data env id).Ensures R := by
  induction hp : env.pending using Nat.strongRecOn generalizing env id with
  | ind pending ih =>
    rw [compileReference_eq_level, compileLevel]
    refine upheld.within ?_ _
    cases located : env.locate id with
    | error refusal => exact upheld.refuse visited located
    | ok text =>
      refine upheld.bind (upheld.log _ _ _) fun _ => ?_
      have measured : (CompileM.measure
          (·.observeDepth (.int env.ancestry.length))).Ensures R :=
        fun ambient => upheld.measured ambient _
      refine upheld.bind measured fun _ => ?_
      refine upheld.compileWith visited located fun other mentions => ?_
      have below := ih _ (hp ▸ Environment.pending_descend_lt located)
        (visited.tail (.intro located mentions)) rfl
      exact upheld.bind below fun _ => upheld.pure _

/-! ## 4. The recursion ends -/

/-- Compiles a script by its id through at most so many levels; below them `cutoff` is done. -/
def compileNested (T : Toolchain τ ρ σ) (data : Data)
    (cutoff : Environment → Text → CompileM (Result τ ρ σ)) :
    Nat → Environment → Text → CompileM (Result τ ρ σ)
  | 0 => cutoff
  | levels + 1 => T.compileLevel data (T.compileNested data cutoff levels)

/-- A level depends on what is done below it for the scripts inside the one at hand alone. -/
theorem compileLevel_congr {below other : Environment → Text → CompileM (Result τ ρ σ)}
    (same : ∀ text, env.locate id = .ok text →
      ∀ next, below (env.descend id) next = other (env.descend id) next) :
    T.compileLevel data below env id = T.compileLevel data other env id := by
  unfold compileLevel
  cases located : env.locate id with
  | error refusal => rfl
  | ok text =>
    have answers : (fun next => do return (← below (env.descend id) next).verdict) =
        fun next => do return (← other (env.descend id) next).verdict := by
      funext next
      rw [same text located next]
    simp only [answers]

/-- **The cut is never reached** if it lies deeper than there are scripts left. -/
theorem compileNested_eq {cutoff : Environment → Text → CompileM (Result τ ρ σ)} {levels : Nat}
    (enough : env.pending < levels) :
    T.compileNested data cutoff levels env id = T.compileReference data env id := by
  induction levels generalizing env id with
  | zero => omega
  | succ levels ih =>
    rw [compileReference_eq_level, compileNested]
    refine compileLevel_congr fun text located next => ih ?_
    have := Environment.pending_descend_lt located
    omega

end Run

/-! ## 5. Lineages -/

/-- **The scripts that a compilation has gone down through**, outermost first.  They are all
different and new, each has a text, and each is mentioned in the text of the one before, for a
resolver that was created with exactly the ancestry up to there. -/
structure Lineage (T : Toolchain τ ρ σ) (data : Data) (env : Environment) (id : Text)
    (chain : List Text) : Prop where
  starts : chain.head? = some id
  different : chain.Nodup
  new : ∀ script ∈ chain, script ∉ env.ancestry
  known : ∀ script ∈ chain, ∃ text, env.script? script = some text
  linked : ∀ before script next after, chain = before ++ script :: next :: after →
    ∃ text, env.script? script = some text ∧
      T.Mentions data { env with ancestry := env.ancestry ++ before ++ [script] } text next
  /-- There are no more of them than scripts that were not in the ancestry. -/
  within_pending : chain.length ≤ env.pending
  within_ceiling : ∀ ceiling ∈ env.ceiling, env.ancestry.length + chain.length ≤ ceiling

section Lineages

variable {T : Toolchain τ ρ σ} {data : Data} {env : Environment} {id text : Text}

/-- Below the ceiling there is room for one more. -/
theorem length_lt_of_fullAt? (room : env.fullAt? = none) :
    ∀ ceiling ∈ env.ceiling, (env.ancestry.length : Int) < ceiling := by
  intro ceiling given
  refine Int.not_le.mp fun full => ?_
  simp [Environment.fullAt?, Option.mem_def.mp given, full] at room

/-- A script that is handed out is a lineage by itself. -/
theorem Lineage.single (located : env.locate id = .ok text) : T.Lineage data env id [id] := by
  obtain ⟨there, new, room⟩ := Environment.of_locate located
  refine ⟨rfl, by simp, by simpa using new, by simpa using ⟨text, there⟩, ?_, ?_, ?_⟩
  · intro before script next after split
    have := congrArg List.length split
    simp at this
    omega
  · have := Environment.pending_descend_lt located
    simp only [List.length_singleton]
    omega
  · intro ceiling given
    have := length_lt_of_fullAt? room ceiling given
    simp only [List.length_singleton]
    omega

/-- A lineage inside a script that is handed out goes on above with that script. -/
theorem Lineage.cons {next : Text} {chain : List Text} (located : env.locate id = .ok text)
    (mentions : T.Mentions data (env.descend id) text next)
    (below : T.Lineage data (env.descend id) next chain) : T.Lineage data env id (id :: chain) := by
  obtain ⟨there, new, -⟩ := Environment.of_locate located
  have apart : ∀ script ∈ chain, script ∉ env.ancestry ∧ script ≠ id := by
    intro script member
    have := below.new script member
    simpa [Environment.descend] using this
  refine ⟨rfl, ?_, ?_, ?_, ?_, ?_, ?_⟩
  · exact List.nodup_cons.mpr ⟨fun member => (apart id member).2 rfl, below.different⟩
  · intro script member
    rcases List.mem_cons.mp member with rfl | later
    · exact new
    · exact (apart script later).1
  · intro script member
    rcases List.mem_cons.mp member with rfl | later
    · exact ⟨text, there⟩
    · exact below.known script later
  · intro before script other after split
    cases before with
    | nil =>
      -- The first link is the step down at hand.
      obtain ⟨rfl, rfl⟩ := List.cons.inj split
      obtain rfl : other = next := Option.some.inj below.starts
      refine ⟨text, there, ?_⟩
      rw [List.append_nil]
      exact mentions
    | cons first before =>
      obtain ⟨rfl, rest⟩ := List.cons.inj split
      obtain ⟨inner, known, mentioned⟩ := below.linked before script other after rest
      refine ⟨inner, known, ?_⟩
      have same : env.ancestry ++ id :: before ++ [script] =
          env.ancestry ++ [id] ++ before ++ [script] := by simp
      rw [same]
      exact mentioned
  · have := below.within_pending
    have := Environment.pending_descend_lt located
    rw [List.length_cons]
    omega
  · intro ceiling given
    have := below.within_ceiling ceiling given
    simp only [Environment.descend, List.length_append, List.length_singleton] at this
    rw [List.length_cons]
    omega

/-- **The ancestry inside a visited script is a lineage of the start.** -/
theorem Lineage.of_visits {start : Call} (visited : T.Visits data start (env, id))
    (located : env.locate id = .ok text) :
    ∃ chain, (env.descend id).ancestry = start.1.ancestry ++ chain ∧
      T.Lineage data start.1 start.2 chain := by
  induction visited using Relation.ReflTransGen.head_induction_on with
  | refl => exact ⟨[id], rfl, .single located⟩
  | head call visited ih =>
    obtain ⟨chain, same, below⟩ := ih
    obtain ⟨above, mentions⟩ := call
    refine ⟨_ :: chain, ?_, below.cons above mentions⟩
    rw [same]
    simp [Environment.descend]

end Lineages

/-! ## 6. What a run leaves behind -/

/-- **What a run leaves behind**: resolvers were created for ancestries of which `made` holds, and
circular references were counted only if `cyclic`. -/
structure Leaves (made : List Text → Prop) (cyclic : Prop) (before after : Ambient) : Prop where
  journal : ∃ calls, after.journal = before.journal ++ calls ∧
    ∀ ancestry, .createResolver ancestry ∈ calls → made ancestry
  cycles_le : before.metrics.circularDependencies ≤ after.metrics.circularDependencies
  cyclic_of_lt :
    before.metrics.circularDependencies < after.metrics.circularDependencies → cyclic

section Leaving

variable {made : List Text → Prop} {cyclic : Prop}

theorem Leaves.of_same {before after : Ambient} (journal : after.journal = before.journal)
    (cycles : after.metrics.circularDependencies = before.metrics.circularDependencies) :
    Leaves made cyclic before after := by
  refine ⟨⟨[], by simp [journal], by simp⟩, cycles.ge, fun increased => ?_⟩
  omega

theorem Leaves.trans {a b c : Ambient} (first : Leaves made cyclic a b)
    (second : Leaves made cyclic b c) : Leaves made cyclic a c := by
  obtain ⟨early, hEarly, madeEarly⟩ := first.journal
  obtain ⟨late, hLate, madeLate⟩ := second.journal
  refine ⟨⟨early ++ late, by rw [hLate, hEarly, List.append_assoc], ?_⟩,
    first.cycles_le.trans second.cycles_le, ?_⟩
  · intro ancestry member
    rcases List.mem_append.mp member with member | member
    · exact madeEarly ancestry member
    · exact madeLate ancestry member
  · intro increased
    by_cases here : a.metrics.circularDependencies < b.metrics.circularDependencies
    · exact first.cyclic_of_lt here
    · exact second.cyclic_of_lt (by omega)

variable {T : Toolchain τ ρ σ} {data : Data} {start : Call}

/-- The ancestry inside a script that the start leads to. -/
def Entered (T : Toolchain τ ρ σ) (data : Data) (start : Call) (ancestry : List Text) : Prop :=
  ∃ env id text, T.Visits data start (env, id) ∧ env.locate id = .ok text ∧
    ancestry = (env.descend id).ancestry

/-- The start leads to a script that is refused as its own ancestor. -/
def MeetsCycle (T : Toolchain τ ρ σ) (data : Data) (start : Call) : Prop :=
  ∃ env id other ancestry, T.Visits data start (env, id) ∧
    env.locate id = .error (.circular other ancestry)

theorem upheld_leaves (T : Toolchain τ ρ σ) (data : Data) (start : Call) :
    T.Upheld data start (Leaves (T.Entered data start) (T.MeetsCycle data start)) where
  refl _ := .of_same rfl rfl
  trans _ _ _ := .trans
  retraced _ _ h := ⟨h.journal, h.cycles_le, h.cyclic_of_lt⟩
  logged _ _ := .of_same rfl rfl
  measured _ _ := .of_same rfl rfl
  noted _ call other :=
    ⟨⟨[call], rfl, fun ancestry member => absurd (List.mem_singleton.mp member).symm
      (other ancestry)⟩, le_rfl, fun increased => absurd increased (lt_irrefl _)⟩
  created _ env id text visited located := by
    refine ⟨⟨[_], rfl, fun ancestry member => ?_⟩, le_rfl, fun increased => ?_⟩
    · cases List.mem_singleton.mp member
      exact ⟨env, id, text, visited, located, rfl⟩
    · exact absurd increased (lt_irrefl _)
  counted _ env id other ancestry visited refused :=
    ⟨⟨[], by simp, by simp⟩, Nat.le_succ _, fun _ => ⟨env, id, other, ancestry, visited, refused⟩⟩

/-- What compiling a script by its id leaves behind. -/
theorem leaves_compileReference (T : Toolchain τ ρ σ) (data : Data) (env : Environment)
    (id : Text) :
    (T.compileReference data env id).Ensures
      (Leaves (T.Entered data (env, id)) (T.MeetsCycle data (env, id))) :=
  ensures_compileReference (T.upheld_leaves data (env, id)) .refl

end Leaving

theorem pending_le_length (env : Environment) : env.pending ≤ env.scripts.length :=
  List.length_filter_le _ _

/-- **Compiling a script by its id ends, and its ancestry stays a chain of different scripts.**
Steps down are well-founded, and the recursion is complete after one level more than there are
scripts outside of the ancestry; every resolver that is created sees the ancestry of the start with
a lineage behind it, which is no longer than there are scripts or than the ceiling leaves room. -/
theorem compileReference_descends (T : Toolchain τ ρ σ) (data : Data) (env : Environment)
    (id : Text) :
    Acc (fun below above => T.Calls data above below) (env, id) ∧
    (∀ cutoff extra, T.compileNested data cutoff (env.pending + 1 + extra) env id =
      T.compileReference data env id) ∧
    ∀ ambient, ∃ calls,
      ((T.compileReference data env id).run ambient).2.journal = ambient.journal ++ calls ∧
      ∀ ancestry, .createResolver ancestry ∈ calls →
        ∃ chain, ancestry = env.ancestry ++ chain ∧ T.Lineage data env id chain ∧
          chain.length ≤ env.scripts.length := by
  refine ⟨T.acc_calls data (env, id), fun cutoff extra => compileNested_eq (by omega), ?_⟩
  intro ambient
  obtain ⟨calls, journal, entered⟩ := (T.leaves_compileReference data env id ambient).journal
  refine ⟨calls, journal, fun ancestry member => ?_⟩
  obtain ⟨inner, script, text, visited, located, rfl⟩ := entered ancestry member
  obtain ⟨chain, same, lineage⟩ := Lineage.of_visits visited located
  exact ⟨chain, same, lineage, lineage.within_pending.trans (pending_le_length env)⟩

/-- Two scripts that refer to each other. -/
def mutualEnvironment : Environment where
  scripts := [("a", some "b"), ("b", some "<a>")]

/-- Between two scripts that refer to each other, nesting stops after both: a resolver is created
for either, and none for the name that leads back. -/
theorem compileReference_descends_mutual :
    standard.compileNested {} (fun _ _ => CompileM.ofExcept (.error .truncatedPush)) 3
        mutualEnvironment "a" = standard.compileReference {} mutualEnvironment "a" ∧
      ((standard.compileReference {} mutualEnvironment "a").run default).2.journal =
        [.parse "b" { scriptId := .str "a" }, .createResolver ["a"], .resolve "b",
          .parse "<a>" { scriptId := .str "b", depth := .int 1 }, .createResolver ["a", "b"],
          .resolve "<a>", .collect "<a>" 1, .collect "b" 1] ∧
      ∀ ancestry, .createResolver ancestry ∈
          ((standard.compileReference {} mutualEnvironment "a").run default).2.journal →
        ancestry.length ≤ 2 ∧ ancestry.head? = some (Text.ofString "a") := by
  obtain ⟨-, ends, leaves⟩ := compileReference_descends standard {} mutualEnvironment "a"
  have nested : standard.compileNested {}
      (fun _ _ => CompileM.ofExcept (.error .truncatedPush)) 3 mutualEnvironment "a" = _ := ends _ 0
  refine ⟨nested, ?_, fun ancestry member => ?_⟩
  · have fresh : (default : Ambient) = { host := default, metrics := default } := rfl
    rw [← nested, fresh]
    -- Three levels are evaluated, whatever clock and metrics are: they hold doubles, which have no
    -- value in a proof.
    simp only [compileNested, compileLevel]
    generalize (default : Host) = host, (default : Metrics.Registry) = metrics,
      Metrics.Registry.observeDepth = observe
    cbv
  · obtain ⟨calls, journal, created⟩ := leaves default
    rw [journal] at member
    obtain ⟨chain, rfl, lineage, short⟩ := created ancestry member
    exact ⟨short, lineage.starts⟩

end Toolchain

end ScriptTemplate
