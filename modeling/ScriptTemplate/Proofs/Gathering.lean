/-
# What reducing asks for, and when it has no outcome

Reducing a resolved script closes its brackets from the inside out.  Closing a push bracket hands
the bytes inside to the push encoder; closing an evaluation hands them to the machine, if there is
one.  These are the only two things that can go wrong without a result: the encoder has no form
for data of `Push.sizeLimit` bytes and more, and the machine has no outcome for a code that
misses a length.

`Demand` names what is handed over, and `Resolved.Demands` says what a piece hands over, in terms
of what its inner pieces gather.  The main statement is exact, and says which escape results:

* `gatherAll_eq_error`: every escape is raised by a demand of one of the pieces;
* `gatherAll_escapes`: a demand that raises an escape leaves the row without a result.

The second does not name the escape of the row, since an earlier piece may raise another one
first.
-/
import ScriptTemplate.Proofs.MachineRuns
import ScriptTemplate.Proofs.PureOutcome
import ScriptTemplate.Script.Reduction

namespace ScriptTemplate.Script

/-! ## 1. Gathering piece by piece -/

theorem Gathered.append_def (a b : Gathered) :
    a ++ b = ⟨a.output ++ b.output, a.errors ++ b.errors, a.states ++ b.states⟩ := rfl

@[simp] theorem Gathered.append_empty (a : Gathered) : a ++ ({} : Gathered) = a := by
  simp [append_def]

section Gather

variable {capabilities : Capabilities} {items rest : List Resolved} {piece : Resolved}
  {bracket : Bracket} {range : SourceRange} {first others inner closed : Gathered}

@[simp] theorem gather_bytecode (value : Bytes) :
    (Resolved.bytecode value range).gather capabilities = .ok { output := value } := by
  rw [Resolved.gather]

@[simp] theorem gatherAll_nil : gatherAll capabilities [] = .ok {} := by
  rw [gatherAll]

theorem gather_group :
    (Resolved.group bracket items range).gather capabilities =
      gatherAll capabilities items >>= closeGroup capabilities bracket range := by
  rw [Resolved.gather]

theorem gatherAll_cons :
    gatherAll capabilities (piece :: rest) =
      piece.gather capabilities >>= fun first =>
        gatherAll capabilities rest >>= fun others => .ok (first ++ others) := by
  rw [gatherAll]
  rfl

/-- A row gathers what its first piece and the others gather. -/
theorem gatherAll_cons_of_ok (hf : piece.gather capabilities = .ok first)
    (ho : gatherAll capabilities rest = .ok others) :
    gatherAll capabilities (piece :: rest) = .ok (first ++ others) := by
  rw [gatherAll_cons, hf]
  show (gatherAll capabilities rest >>= fun others => Except.ok (first ++ others)) = _
  rw [ho]
  rfl

/-- **Where a row is gathered, its first piece and the others are.** -/
theorem exists_of_gatherAll_cons {all : Gathered}
    (h : gatherAll capabilities (piece :: rest) = .ok all) :
    ∃ first others, piece.gather capabilities = .ok first ∧
      gatherAll capabilities rest = .ok others ∧ all = first ++ others := by
  rw [gatherAll_cons, bind_eq_ok_iff] at h
  obtain ⟨first, hf, h⟩ := h
  obtain ⟨others, ho, same⟩ := bind_eq_ok_iff.mp h
  exact ⟨first, others, hf, ho, (Except.ok.inj same).symm⟩

theorem gatherAll_singleton (h : piece.gather capabilities = .ok first) :
    gatherAll capabilities [piece] = .ok first := by
  rw [gatherAll_cons_of_ok h gatherAll_nil, Gathered.append_empty]

@[simp] theorem gatherAll_bytecode (value : Bytes) :
    gatherAll capabilities [.bytecode value range] = .ok { output := value } :=
  gatherAll_singleton (gather_bytecode value)

/-- A group gathers what closing it makes of what is inside. -/
theorem gather_group_of_ok (hi : gatherAll capabilities items = .ok inner)
    (hc : closeGroup capabilities bracket range inner = .ok closed) :
    (Resolved.group bracket items range).gather capabilities = .ok closed := by
  rw [gather_group, hi]
  exact hc

end Gather

/-! ## 2. Demands -/

/-- What closing a bracket hands over. -/
inductive Demand
  /-- Data for the push encoder. -/
  | push (data : Bytes)
  /-- A code for the machine. -/
  | run (code : Bytes)
deriving DecidableEq, Repr, Inhabited

/-- A demand that cannot be met, and the escape that this raises. -/
inductive Demand.Raises : Demand → Escape → Prop
  | oversized {data : Bytes} (long : Push.sizeLimit ≤ data.length) :
    Raises (.push data) .oversizedPush
  | truncated {code : Bytes} (misses : Machine.MissesLength code) :
    Raises (.run code) .truncatedPush

/-- What closing a bracket around an output hands over; an evaluation without a machine hands over
nothing. -/
inductive Bracket.Demands (capabilities : Capabilities) (output : Bytes) : Bracket → Demand → Prop
  | push : Demands capabilities output .push (.push output)
  | run (able : capabilities.canEvaluate) : Demands capabilities output .evaluation (.run output)

/-- **What reducing a piece hands over**, provided that nothing before it escapes: what closing its
own bracket does, and what the pieces inside do. -/
inductive Resolved.Demands (capabilities : Capabilities) : Resolved → Demand → Prop
  | closing {bracket : Bracket} {items : List Resolved} {range : SourceRange} {inner : Gathered}
    {demand : Demand} (gathered : gatherAll capabilities items = .ok inner)
    (closes : bracket.Demands capabilities inner.output demand) :
    Demands capabilities (.group bracket items range) demand
  | inside {bracket : Bracket} {items : List Resolved} {range : SourceRange} {piece : Resolved}
    {demand : Demand} (member : piece ∈ items) (demanded : Demands capabilities piece demand) :
    Demands capabilities (.group bracket items range) demand

/-! ## 3. Closing a bracket -/

theorem closePush_eq_error_iff {inner : Gathered} {escape : Escape} :
    closePush inner = .error escape ↔
      Push.sizeLimit ≤ inner.output.length ∧ escape = .oversizedPush := by
  unfold closePush
  split
  · next small => simp [Nat.not_le.mpr small]
  · next large => simp [Nat.not_lt.mp large, eq_comm]

theorem closeEvaluation_eq_error_iff {capabilities : Capabilities} {range : SourceRange}
    {inner : Gathered} {escape : Escape} :
    closeEvaluation capabilities range inner = .error escape ↔
      capabilities.canEvaluate ∧ Machine.MissesLength inner.output ∧
        escape = .truncatedPush := by
  rw [← Machine.run_eq_none_iff]
  unfold closeEvaluation
  split
  · next able =>
    cases Machine.run [] inner.output with
    | none => simp [able, eq_comm]
    | some state => cases h : evaluated state <;> simp [h]
  · next unable => simp [unable]

/-- **Closing a bracket escapes exactly if what it hands over cannot be met.** -/
theorem closeGroup_eq_error_iff {capabilities : Capabilities} {bracket : Bracket}
    {range : SourceRange} {inner : Gathered} {escape : Escape} :
    closeGroup capabilities bracket range inner = .error escape ↔
      ∃ demand, bracket.Demands capabilities inner.output demand ∧ demand.Raises escape := by
  cases bracket with
  | push =>
    rw [closeGroup, closePush_eq_error_iff]
    constructor
    · rintro ⟨long, rfl⟩
      exact ⟨_, .push, .oversized long⟩
    · rintro ⟨demand, closes, raises⟩
      cases closes
      cases raises with
      | oversized long => exact ⟨long, rfl⟩
  | evaluation =>
    rw [closeGroup, closeEvaluation_eq_error_iff]
    constructor
    · rintro ⟨able, misses, rfl⟩
      exact ⟨_, .run able, .truncated misses⟩
    · rintro ⟨demand, closes, raises⟩
      cases closes with
      | run able =>
        cases raises with
        | truncated misses => exact ⟨able, misses, rfl⟩

/-! ## 4. Reducing a tree -/

mutual

/-- Every escape of a piece is raised by one of its demands. -/
theorem gather_eq_error {capabilities : Capabilities} {escape : Escape} :
    ∀ {piece : Resolved}, piece.gather capabilities = .error escape →
      ∃ demand, piece.Demands capabilities demand ∧ demand.Raises escape
  | .bytecode value range, h => by rw [gather_bytecode] at h; cases h
  | .error message range, h => by rw [Resolved.gather] at h; cases h
  | .group bracket items range, h => by
    rw [gather_group, bind_eq_error_iff] at h
    rcases h with early | ⟨inner, gathered, late⟩
    · obtain ⟨piece, member, demand, demanded, raises⟩ := gatherAll_eq_error early
      exact ⟨demand, .inside member demanded, raises⟩
    · obtain ⟨demand, closes, raises⟩ := closeGroup_eq_error_iff.mp late
      exact ⟨demand, .closing gathered closes, raises⟩

/-- **Every escape of a row is raised by a demand of one of its pieces.** -/
theorem gatherAll_eq_error {capabilities : Capabilities} {escape : Escape} :
    ∀ {pieces : List Resolved}, gatherAll capabilities pieces = .error escape →
      ∃ piece ∈ pieces, ∃ demand, piece.Demands capabilities demand ∧ demand.Raises escape
  | [], h => by rw [gatherAll_nil] at h; cases h
  | piece :: rest, h => by
    rw [gatherAll_cons, bind_eq_error_iff] at h
    rcases h with early | ⟨first, -, late⟩
    · obtain ⟨demand, demanded, raises⟩ := gather_eq_error early
      exact ⟨piece, List.mem_cons_self, demand, demanded, raises⟩
    · rw [bind_eq_error_iff] at late
      rcases late with late | ⟨_, -, never⟩
      · obtain ⟨other, member, found⟩ := gatherAll_eq_error late
        exact ⟨other, List.mem_cons_of_mem _ member, found⟩
      · cases never

end

/-- A row with a piece that escapes has no result. -/
theorem gatherAll_ne_ok_of_mem {capabilities : Capabilities} {piece : Resolved}
    (stuck : ∀ first, piece.gather capabilities ≠ .ok first) {pieces : List Resolved}
    (member : piece ∈ pieces) (all : Gathered) : gatherAll capabilities pieces ≠ .ok all := by
  induction pieces generalizing all with
  | nil => cases member
  | cons head rest ih =>
    intro h
    obtain ⟨first, others, hf, ho, -⟩ := exists_of_gatherAll_cons h
    rcases List.mem_cons.mp member with rfl | later
    · exact stuck first hf
    · exact ih later others ho

/-- A piece with a demand that raises an escape has no result. -/
theorem gather_ne_ok_of_demands {capabilities : Capabilities} {piece : Resolved} {demand : Demand}
    {escape : Escape} (demanded : piece.Demands capabilities demand)
    (raises : demand.Raises escape) (all : Gathered) : piece.gather capabilities ≠ .ok all := by
  induction demanded generalizing all with
  | @closing bracket items range inner demand gathered closes =>
    intro h
    rw [gather_group, gathered] at h
    have stuck : closeGroup capabilities bracket range inner = .error escape :=
      closeGroup_eq_error_iff.mpr ⟨demand, closes, raises⟩
    exact absurd (stuck.symm.trans h) (by simp)
  | inside member demanded ih =>
    intro h
    rw [gather_group, bind_eq_ok_iff] at h
    obtain ⟨inner, hi, -⟩ := h
    exact gatherAll_ne_ok_of_mem (ih raises) member inner hi

/-- **A demand that raises an escape leaves a row without a result.** -/
theorem gatherAll_escapes {capabilities : Capabilities} {pieces : List Resolved} {piece : Resolved}
    {demand : Demand} {escape : Escape} (member : piece ∈ pieces)
    (demanded : piece.Demands capabilities demand) (raises : demand.Raises escape)
    (all : Gathered) : gatherAll capabilities pieces ≠ .ok all :=
  gatherAll_ne_ok_of_mem (gather_ne_ok_of_demands demanded raises) member all

end ScriptTemplate.Script
