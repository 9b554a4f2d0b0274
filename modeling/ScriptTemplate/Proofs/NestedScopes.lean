/-
# Nested scopes put the trace back

A scope keeps the one trace that held when it was entered last, in itself.  There is no stack of
traces anywhere.  As long as scopes are left in the reverse of the order in which they were entered,
and none is entered while it is open, the scopes TOGETHER are such a stack (`Keeps`): what the open
ones keep are the traces of their entries, and no action touches what an outer scope keeps.

* `TraceAction` is what can be done: a scope is entered or left, or the compilation id is set.
  `nest?` follows the scopes that are open, and refuses what breaks the nesting.
* `Keeps.step` says what one action does to the stack, and `Keeps.run` what a row of them does.
  Both look at a stretch of actions that starts with scopes open already, and say that the stretch
  leaves what those keep alone.
* **Every scope that is left was entered before, with all in between closed** (`exists_matching`).

The compilation id may be set at any time.  Inside of a scope that is undone when the scope is left;
outside of all scopes nothing undoes it, so the last statement has to leave it out.
-/
import Mathlib
import ScriptTemplate.Trace

namespace ScriptTemplate

/-- Something that is done to the trace. -/
inductive TraceAction (Name : Type)
  | enter (name : Name)
  | leave (name : Name)
  | setId (id : Option Text)

/-- The trace, and the scopes by their names. -/
structure Tracing (Name : Type) where
  trace : Trace
  scopes : Name → Scope

variable {Name : Type} [DecidableEq Name]

/-! ## 1. What is done, and what is open -/

namespace TraceAction

/-- What an action does; none if a scope is left that was left already. -/
def perform? (now : Tracing Name) : TraceAction Name → Option (Tracing Name)
  | enter name =>
    let entered := (now.scopes name).enter now.trace
    some ⟨entered.2, Function.update now.scopes name entered.1⟩
  | leave name =>
    ((now.scopes name).leave? now.trace).map fun left =>
      ⟨left.2, Function.update now.scopes name left.1⟩
  | setId id => some { now with trace := now.trace.withCompilationId id }

/-- The scopes that are open after an action, the innermost first.  None if the action breaks the
nesting: it enters a scope that is open, or leaves another one than the innermost. -/
def nest? (opened : List Name) : TraceAction Name → Option (List Name)
  | enter name => if name ∈ opened then none else some (name :: opened)
  | leave name =>
    match opened with
    | [] => none
    | innermost :: outer => if innermost = name then some outer else none
  | setId _ => some opened

end TraceAction

open TraceAction

/-- What a row of actions does. -/
def Tracing.performAll? (start : Tracing Name) (actions : List (TraceAction Name)) :
    Option (Tracing Name) :=
  actions.foldlM perform? start

/-- The scopes that are open after a row of actions. -/
def nestAll? (opened : List Name) (actions : List (TraceAction Name)) : Option (List Name) :=
  actions.foldlM nest? opened

/-- **A row of actions is well bracketed**: a scope is left only while it is the innermost one that
is open, and entered only while it is not open. -/
def WellBracketed (actions : List (TraceAction Name)) : Prop :=
  ∃ opened, nestAll? [] actions = some opened

/-- A well-bracketed row of actions that leaves all scopes it enters. -/
def Balanced (actions : List (TraceAction Name)) : Prop := nestAll? [] actions = some []

section Rows

variable {start now next : Tracing Name} {opened inside : List Name} {action : TraceAction Name}
  {before actions : List (TraceAction Name)}

theorem performAll?_append (done : start.performAll? before = some now) :
    start.performAll? (before ++ actions) = now.performAll? actions := by
  rw [Tracing.performAll?, List.foldlM_append]
  exact congrArg (Option.bind · _) done

theorem performAll?_cons (done : action.perform? now = some next) :
    now.performAll? (action :: actions) = next.performAll? actions := by
  rw [Tracing.performAll?, List.foldlM_cons, done]
  rfl

/-- A row that is put together nests piece by piece. -/
theorem nestAll?_append_eq_some_iff :
    nestAll? opened (before ++ actions) = some inside ↔
      ∃ between, nestAll? opened before = some between ∧
        nestAll? between actions = some inside := by
  rw [nestAll?, List.foldlM_append]
  exact Option.bind_eq_some_iff

theorem nestAll?_cons_eq_some_iff :
    nestAll? opened (action :: actions) = some inside ↔
      ∃ between, action.nest? opened = some between ∧ nestAll? between actions = some inside := by
  rw [nestAll?, List.foldlM_cons]
  exact Option.bind_eq_some_iff

end Rows

namespace TraceAction

variable {opened inside : List Name} {name : Name}

theorem nest?_enter_eq_some_iff :
    (enter name).nest? opened = some inside ↔ name ∉ opened ∧ inside = name :: opened := by
  simp only [nest?]
  split_ifs with isOpen
  · simp [isOpen]
  · simp [isOpen, eq_comm]

theorem nest?_leave_eq_some_iff :
    (leave name).nest? opened = some inside ↔ opened = name :: inside := by
  cases opened with
  | nil => simp [nest?]
  | cons innermost outer => simp [nest?]

/-- **An action does the same with fewer scopes open around it.**  If it is allowed inside of
`outer` and closes none of those, then it is allowed inside of a part of them and leaves that part
open. -/
theorem nest?_within {action : TraceAction Name} {outer part total : List Name}
    (nests : action.nest? opened = some inside)
    (allowed : action.nest? (opened ++ outer) = some total) (fewer : part ⊆ outer) :
    action.nest? (opened ++ part) = some (inside ++ part) := by
  cases action with
  | enter name =>
    obtain ⟨-, rfl⟩ := nest?_enter_eq_some_iff.mp nests
    obtain ⟨closed, -⟩ := nest?_enter_eq_some_iff.mp allowed
    refine nest?_enter_eq_some_iff.mpr ⟨fun isOpen => closed ?_, rfl⟩
    exact List.mem_append.mpr ((List.mem_append.mp isOpen).imp_right (fewer ·))
  | leave name =>
    obtain rfl := nest?_leave_eq_some_iff.mp nests
    exact nest?_leave_eq_some_iff.mpr rfl
  | setId id =>
    cases nests
    rfl

theorem eq_append_of_nest? {action : TraceAction Name} {outer total : List Name}
    (nests : action.nest? opened = some inside)
    (allowed : action.nest? (opened ++ outer) = some total) : total = inside ++ outer :=
  Option.some.inj (allowed.symm.trans (nest?_within nests allowed (List.Subset.refl _)))

end TraceAction

/-- And so does a row of actions. -/
theorem nestAll?_within {actions : List (TraceAction Name)}
    {opened inside outer part total : List Name}
    (nests : nestAll? opened actions = some inside)
    (allowed : nestAll? (opened ++ outer) actions = some total) (fewer : part ⊆ outer) :
    nestAll? (opened ++ part) actions = some (inside ++ part) := by
  induction actions generalizing opened with
  | nil =>
    cases nests
    rfl
  | cons action rest ih =>
    obtain ⟨between, first, nests⟩ := nestAll?_cons_eq_some_iff.mp nests
    obtain ⟨around, first', allowed⟩ := nestAll?_cons_eq_some_iff.mp allowed
    obtain rfl := eq_append_of_nest? first first'
    exact nestAll?_cons_eq_some_iff.mpr ⟨_, nest?_within first first' fewer, ih nests allowed⟩

/-- **What is left was entered.**  The innermost open scope was entered at some time, and whatever
was entered after it has been left. -/
theorem exists_matching {before : List (TraceAction Name)} {name : Name} {outer : List Name}
    (nests : nestAll? [] before = some (name :: outer)) :
    ∃ earlier inner, before = earlier ++ enter name :: inner ∧ Balanced inner ∧
      nestAll? [] earlier = some outer := by
  -- The last action may leave a scope, and the search goes on before the entry of that one.
  induction length : before.length using Nat.strong_induction_on generalizing before name outer with
  | _ n ih =>
    obtain rfl | ⟨before, action, rfl⟩ := before.eq_nil_or_concat'
    · cases nests
    rw [List.length_append, List.length_singleton] at length
    obtain ⟨between, nests, last⟩ := nestAll?_append_eq_some_iff.mp nests
    obtain ⟨_, last, ⟨⟩⟩ := nestAll?_cons_eq_some_iff.mp last
    cases action with
    | enter name =>
      obtain ⟨-, ⟨⟩⟩ := nest?_enter_eq_some_iff.mp last
      exact ⟨before, [], rfl, rfl, nests⟩
    | setId id =>
      cases last
      obtain ⟨earlier, inner, rfl, balanced, ahead⟩ := ih _ (by omega) nests rfl
      refine ⟨earlier, inner ++ [setId id], by simp, ?_, ahead⟩
      exact nestAll?_append_eq_some_iff.mpr ⟨[], balanced, rfl⟩
    | leave closed =>
      obtain rfl := nest?_leave_eq_some_iff.mp last
      obtain ⟨middle, inner, rfl, balanced, ahead⟩ := ih _ (by omega) nests rfl
      rw [List.length_append] at length
      obtain ⟨earlier, inner', rfl, balanced', ahead'⟩ := ih _ (by omega) ahead rfl
      refine ⟨earlier, inner' ++ enter closed :: (inner ++ [leave closed]), by simp, ?_, ahead'⟩
      -- Inside of the scope that was left, all is balanced with that scope alone around it.
      obtain ⟨_, first, nests⟩ := nestAll?_append_eq_some_iff.mp nests
      obtain rfl := Option.some.inj (first.symm.trans ahead)
      obtain ⟨_, entry, allowed⟩ := nestAll?_cons_eq_some_iff.mp nests
      obtain ⟨-, rfl⟩ := nest?_enter_eq_some_iff.mp entry
      have within : nestAll? [closed] inner = some [closed] :=
        nestAll?_within balanced allowed (by simp)
      refine nestAll?_append_eq_some_iff.mpr ⟨[], balanced', ?_⟩
      refine nestAll?_cons_eq_some_iff.mpr ⟨[closed], rfl, ?_⟩
      refine nestAll?_append_eq_some_iff.mpr ⟨[closed], within, ?_⟩
      exact nestAll?_cons_eq_some_iff.mpr ⟨[], nest?_leave_eq_some_iff.mpr rfl, rfl⟩

/-! ## 2. The open scopes as a stack -/

/-- **The open scopes keep these traces**, the innermost first. -/
structure Keeps (now : Tracing Name) (kept : List (Name × Trace)) : Prop where
  nodup : (kept.map Prod.fst).Nodup
  entered : ∀ entry ∈ kept, (now.scopes entry.1).state = .entered entry.2

namespace Keeps

variable {now : Tracing Name} {kept : List (Name × Trace)} {name : Name} {before : Trace}

/-- What is done to a scope that is not open changes nothing about the others. -/
theorem elsewhere (keeps : Keeps now kept) (closed : name ∉ kept.map Prod.fst) (trace : Trace)
    (scope : Scope) : Keeps ⟨trace, Function.update now.scopes name scope⟩ kept := by
  refine ⟨keeps.nodup, fun entry member => ?_⟩
  have other : entry.1 ≠ name := by
    rintro rfl
    exact closed (List.mem_map_of_mem member)
  simp only [Function.update_of_ne other]
  exact keeps.entered entry member

/-- Entering puts the trace on the stack. -/
theorem push (keeps : Keeps now kept) (closed : name ∉ kept.map Prod.fst) :
    ∃ next, (enter name).perform? now = some next ∧ Keeps next ((name, now.trace) :: kept) := by
  refine ⟨_, rfl, List.nodup_cons.mpr ⟨closed, keeps.nodup⟩, ?_⟩
  rintro entry (_ | ⟨_, member⟩)
  · simp only [Function.update_self]
    rfl
  · exact (keeps.elsewhere closed _ _).entered entry member

/-- Leaving the innermost scope takes its trace from the stack. -/
theorem pop (keeps : Keeps now ((name, before) :: kept)) :
    ∃ next, (leave name).perform? now = some next ∧ next.trace = before ∧ Keeps next kept := by
  have entered : (now.scopes name).state = .entered before :=
    keeps.entered (name, before) List.mem_cons_self
  obtain ⟨closed, nodup⟩ := List.nodup_cons.mp keeps.nodup
  have below : Keeps now kept :=
    ⟨nodup, fun entry member => keeps.entered entry (List.mem_cons_of_mem _ member)⟩
  refine ⟨_, ?_, rfl, below.elsewhere closed before { now.scopes name with state := .left }⟩
  simp only [perform?, Scope.leave?, entered, Option.map_some]

end Keeps

/-- The trace to which a row of open scopes leads back: what the outermost of them keeps, or the
present one if there is none. -/
def ground (trace : Trace) (kept : List (Name × Trace)) : Trace :=
  (kept.map Prod.snd).getLastD trace

/-- **What one action does to the stack.**  `kept` is what the scopes keep that were open at some
moment, `new` what those keep that were entered since.  An action that closes none of the former
leaves what they keep alone.  What the latter lead back to stays, unless the compilation id is set
while there are none of them. -/
theorem Keeps.step {now : Tracing Name} {new kept : List (Name × Trace)} {action : TraceAction Name}
    {inside total : List Name} (keeps : Keeps now (new ++ kept))
    (nests : action.nest? (new.map Prod.fst) = some inside)
    (allowed : action.nest? (new.map Prod.fst ++ kept.map Prod.fst) = some total) :
    ∃ next new', action.perform? now = some next ∧ Keeps next (new' ++ kept) ∧
      new'.map Prod.fst = inside ∧
      ((∀ id, action = setId id → new ≠ []) → ground next.trace new' = ground now.trace new) := by
  cases action with
  | enter name =>
    obtain ⟨closed, -⟩ := nest?_enter_eq_some_iff.mp allowed
    obtain ⟨-, rfl⟩ := nest?_enter_eq_some_iff.mp nests
    rw [← List.map_append] at closed
    obtain ⟨next, performed, entered⟩ := keeps.push closed
    exact ⟨next, (name, now.trace) :: new, performed, entered, rfl, fun _ => List.getLastD_cons⟩
  | leave name =>
    have innermost := nest?_leave_eq_some_iff.mp nests
    obtain ⟨⟨_, before⟩, new, rfl, rfl, rfl⟩ := List.map_eq_cons_iff.mp innermost
    obtain ⟨next, performed, rfl, left⟩ := keeps.pop
    exact ⟨next, new, performed, left, rfl, fun _ => List.getLastD_cons.symm⟩
  | setId id =>
    cases nests
    refine ⟨_, new, rfl, ⟨keeps.nodup, keeps.entered⟩, rfl, fun covered => ?_⟩
    obtain ⟨entry, new, rfl⟩ := List.exists_cons_of_ne_nil (covered id rfl)
    rfl

/-- **What a row of actions does to the stack.** -/
theorem Keeps.run {now : Tracing Name} {new kept : List (Name × Trace)}
    {actions : List (TraceAction Name)} {inside total : List Name} (keeps : Keeps now (new ++ kept))
    (nests : nestAll? (new.map Prod.fst) actions = some inside)
    (allowed : nestAll? (new.map Prod.fst ++ kept.map Prod.fst) actions = some total) :
    ∃ last new', now.performAll? actions = some last ∧ Keeps last (new' ++ kept) ∧
      new'.map Prod.fst = inside ∧
      ((∀ before id after, actions = before ++ setId id :: after →
        nestAll? (new.map Prod.fst) before ≠ some []) →
          ground last.trace new' = ground now.trace new) := by
  -- The induction is on the row.  `new` grows and shrinks with it, `kept` is carried along.
  induction actions generalizing now new with
  | nil =>
    cases nests
    exact ⟨now, new, rfl, keeps, rfl, fun _ => rfl⟩
  | cons action rest ih =>
    obtain ⟨between, first, nests⟩ := nestAll?_cons_eq_some_iff.mp nests
    obtain ⟨around, first', allowed⟩ := nestAll?_cons_eq_some_iff.mp allowed
    obtain rfl := eq_append_of_nest? first first'
    obtain ⟨next, new', performed, keeps, rfl, led⟩ := keeps.step first first'
    obtain ⟨last, new'', ran, keeps, opened, led'⟩ := ih keeps nests allowed
    refine ⟨last, new'', (performAll?_cons performed).trans ran, keeps, opened, fun covered => ?_⟩
    rw [led', led]
    · rintro id rfl rfl
      exact covered [] id rest rfl rfl
    · rintro before id after rfl bare
      exact covered (action :: before) id after rfl
        (nestAll?_cons_eq_some_iff.mpr ⟨_, first, bare⟩)

/-- **A well-bracketed row can be performed**, and the scopes that it leaves open lead back to the
trace from its start, unless the compilation id was set outside of all scopes. -/
theorem exists_keeps {start : Tracing Name} {actions : List (TraceAction Name)} {opened : List Name}
    (nests : nestAll? [] actions = some opened) :
    ∃ last kept, start.performAll? actions = some last ∧ Keeps last kept ∧
      kept.map Prod.fst = opened ∧
      ((∀ before id after, actions = before ++ setId id :: after → ¬ Balanced before) →
        ground last.trace kept = start.trace) := by
  have empty : Keeps start ([] ++ []) := ⟨List.nodup_nil, nofun⟩
  obtain ⟨last, kept, ran, keeps, opened, led⟩ := empty.run nests nests
  rw [List.append_nil] at keeps
  exact ⟨last, kept, ran, keeps, opened, led⟩

/-- **From the entry of a scope to its end** the trace comes back to what it was. -/
theorem Keeps.scope {now : Tracing Name} {kept : List (Name × Trace)} {name : Name}
    {inner after : List (TraceAction Name)} {total : List Name} (keeps : Keeps now kept)
    (balanced : Balanced inner)
    (allowed : nestAll? (kept.map Prod.fst) (enter name :: (inner ++ after)) = some total) :
    ∃ back, now.performAll? (enter name :: (inner ++ [leave name])) = some back ∧
      back.trace = now.trace := by
  obtain ⟨_, entry, allowed⟩ := nestAll?_cons_eq_some_iff.mp allowed
  obtain ⟨closed, rfl⟩ := nest?_enter_eq_some_iff.mp entry
  obtain ⟨_, allowed, -⟩ := nestAll?_append_eq_some_iff.mp allowed
  obtain ⟨next, entered, inside⟩ := keeps.push closed
  have nothingNew : Keeps next ([] ++ (name, now.trace) :: kept) := inside
  obtain ⟨last, new, ran, keeps, none, -⟩ := nothingNew.run balanced allowed
  rw [List.map_eq_nil_iff.mp none, List.nil_append] at keeps
  obtain ⟨back, left, restored, -⟩ := keeps.pop
  refine ⟨back, ?_, restored⟩
  rw [performAll?_cons entered, performAll?_append ran, performAll?_cons left]
  rfl

/-! ## 3. What a scope shows -/

/-- **What a scope was given shows in the trace, and the rest is as before.**  An empty compilation
id is as good as none. -/
structure Narrows (change : TraceChange) (before after : Trace) : Prop where
  givenId : ∀ id, change.compilationId = some id →
    after.compilationId = if id = some [] then none else id
  givenScript : ∀ script, change.scriptId = some script → after.scriptId = script
  givenDepth : ∀ depth, change.depth = some depth → after.depth = depth
  otherId : change.compilationId = none → after.compilationId = before.compilationId
  otherScript : change.scriptId = none → after.scriptId = before.scriptId
  otherDepth : change.depth = none → after.depth = before.depth

theorem narrows_change (trace : Trace) (change : TraceChange) :
    Narrows change trace (trace.change change) where
  givenId := by
    intro id given
    rw [Trace.change, given]
    rcases id with _ | _ | _ <;> rfl
  givenScript := by
    intro script given
    rw [Trace.change, given]
    rfl
  givenDepth := by
    intro depth given
    rw [Trace.change, given]
    rfl
  otherId := by
    intro omitted
    rw [Trace.change, omitted]
    rfl
  otherScript := by
    intro omitted
    rw [Trace.change, omitted]
    rfl
  otherDepth := by
    intro omitted
    rw [Trace.change, omitted]
    rfl

theorem change_leave? {scope : Scope} {trace : Trace} {left : Scope × Trace}
    (h : scope.leave? trace = some left) : left.1.change = scope.change := by
  unfold Scope.leave? at h
  split at h
  · cases h
    rfl
  · cases h
    rfl
  · cases h

/-- An action changes what a scope keeps, never what it shows. -/
theorem change_perform? {now next : Tracing Name} {action : TraceAction Name}
    (performed : action.perform? now = some next) (name : Name) :
    (next.scopes name).change = (now.scopes name).change := by
  cases action with
  | enter entered =>
    cases performed
    by_cases same : name = entered
    · subst same
      simp only [Function.update_self]
      rfl
    · simp only [Function.update_of_ne same]
  | leave closed =>
    obtain ⟨left, leaves, rfl⟩ := Option.map_eq_some_iff.mp performed
    by_cases same : name = closed
    · subst same
      simp only [Function.update_self, change_leave? leaves]
    · simp only [Function.update_of_ne same]
  | setId id =>
    cases performed
    rfl

theorem change_performAll? {start last : Tracing Name} {actions : List (TraceAction Name)}
    (ran : start.performAll? actions = some last) (name : Name) :
    (last.scopes name).change = (start.scopes name).change := by
  induction actions generalizing start with
  | nil =>
    cases ran
    rfl
  | cons action rest ih =>
    cases performed : action.perform? start with
    | none =>
      rw [Tracing.performAll?, List.foldlM_cons, performed] at ran
      cases ran
    | some next =>
      rw [performAll?_cons performed] at ran
      rw [ih ran, change_perform? performed]

/-! ## 4. Rows of actions -/

/-- **The scopes of a row of actions put the trace back.** -/
structure Restores (start : Tracing Name) (actions : List (TraceAction Name)) : Prop where
  /-- No scope is left that was left already. -/
  returns : ∃ last, start.performAll? actions = some last
  /-- Right after its entry a scope shows what it was made with. -/
  entered : ∀ before name after, actions = before ++ enter name :: after →
    ∃ now inside, start.performAll? before = some now ∧
      start.performAll? (before ++ [enter name]) = some inside ∧
      Narrows (start.scopes name).change now.trace inside.trace
  /-- A scope that is left has been entered, and all is closed that was entered since. -/
  matched : ∀ before name after, actions = before ++ leave name :: after →
    ∃ earlier inner, before = earlier ++ enter name :: inner ∧ Balanced inner
  /-- Leaving puts back the trace from before that entry, whatever was done in between. -/
  left : ∀ before name inner after,
    actions = before ++ enter name :: (inner ++ leave name :: after) → Balanced inner →
    ∃ now back, start.performAll? before = some now ∧
      start.performAll? (before ++ enter name :: (inner ++ [leave name])) = some back ∧
      back.trace = now.trace
  /-- If all scopes are left and the compilation id is set inside of scopes only, then the trace is
  as it was. -/
  unchanged : Balanced actions →
    (∀ before id after, actions = before ++ setId id :: after → ¬ Balanced before) →
    ∀ last, start.performAll? actions = some last → last.trace = start.trace

/-- **Nested scopes put the trace back**, whatever the trace and the state of the scopes is at the
start, however deep they are nested, and however often one of them is entered again. -/
theorem nested_scopes_restore (start : Tracing Name) {actions : List (TraceAction Name)}
    (nested : WellBracketed actions) : Restores start actions := by
  obtain ⟨opened, nests⟩ := nested
  refine ⟨?_, ?_, ?_, ?_, ?_⟩
  · obtain ⟨last, kept, ran, -⟩ := exists_keeps nests
    exact ⟨last, ran⟩
  · rintro before name after rfl
    obtain ⟨_, first, -⟩ := nestAll?_append_eq_some_iff.mp nests
    obtain ⟨now, kept, ran, -⟩ := exists_keeps first
    refine ⟨now, _, ran, (performAll?_append ran).trans rfl, ?_⟩
    rw [← change_performAll? ran]
    exact narrows_change _ _
  · rintro before name after rfl
    obtain ⟨_, first, rest⟩ := nestAll?_append_eq_some_iff.mp nests
    obtain ⟨_, last, -⟩ := nestAll?_cons_eq_some_iff.mp rest
    rw [nest?_leave_eq_some_iff.mp last] at first
    obtain ⟨earlier, inner, split, balanced, -⟩ := exists_matching first
    exact ⟨earlier, inner, split, balanced⟩
  · rintro before name inner after rfl balanced
    obtain ⟨_, first, allowed⟩ := nestAll?_append_eq_some_iff.mp nests
    obtain ⟨now, kept, ran, keeps, rfl, -⟩ := exists_keeps first
    obtain ⟨back, ran', restored⟩ := keeps.scope balanced allowed
    exact ⟨now, back, ran, (performAll?_append ran).trans ran', restored⟩
  · intro balanced covered last ran
    obtain ⟨last', kept, ran', -, none, led⟩ := exists_keeps balanced
    obtain rfl := Option.some.inj (ran.symm.trans ran')
    obtain rfl := List.map_eq_nil_iff.mp none
    exact led covered

/-- A scope for a job, and one for a script of it. -/
def jobScopes : Nat → Scope
  | 0 => { change := { compilationId := some (some "job") } }
  | _ => { change := { scriptId := some (.str "lock"), depth := some (.int 1) } }

/-- A script is gone into, the compilation id being set inside of it. -/
def firstVisit : List (TraceAction Nat) := [enter 1, setId (some "other"), leave 1]

/-- The same script is gone into again. -/
def secondVisit : List (TraceAction Nat) := [enter 1, leave 1]

/-- After the first visit the compilation id is that of the job again, and after the job there is
none, as at the start. -/
theorem nested_scopes_restore_job :
    WellBracketed (enter 0 :: (firstVisit ++ secondVisit) ++ [leave 0]) ∧
    (∃ back, Tracing.performAll? ⟨{}, jobScopes⟩ (enter 0 :: firstVisit) = some back ∧
      back.trace = ⟨some "job", .null, .int 0⟩) ∧
    ∃ back, Tracing.performAll? ⟨{}, jobScopes⟩
        (enter 0 :: (firstVisit ++ secondVisit) ++ [leave 0]) = some back ∧
      back.trace = {} := by
  have nested : WellBracketed (enter 0 :: (firstVisit ++ secondVisit) ++ [leave 0]) := ⟨[], rfl⟩
  have restores := nested_scopes_restore ⟨{}, jobScopes⟩ nested
  obtain ⟨now, back, ran, ran', restored⟩ :=
    restores.left [enter 0] 1 [setId (some "other")] (secondVisit ++ [leave 0]) rfl rfl
  obtain ⟨first, last, ran'', ended, restored'⟩ :=
    restores.left [] 0 (firstVisit ++ secondVisit) [] rfl rfl
  cases ran
  cases ran''
  exact ⟨nested, ⟨back, ran', restored⟩, last, ended, restored'⟩

end ScriptTemplate
