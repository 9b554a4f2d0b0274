/-
# Codes one behind the other

An unlocking script and a locking script are run as one code.  The machine knows nothing of the
seam between them: an instruction takes as many bytes as its opcode announces, and where the code
ends too early it stops or has no outcome.  So it has to be shown that the seam is kept.

* **A step of the first code is a step of the whole** (`Step.append`), since an instruction that
  goes on has looked at its own bytes only.
* **Behind the first code, the steps of the whole are those of the second** (`step_advanced_iff`),
  with all positions moved.
* **A run that is clean on the first code meets the seam** and nothing else there
  (`RunsTo.eq_or_step`): at each point before, the first code has its own next step, and there is
  only one (`Step.unique`).

Both directions together give all points that a run of the whole comes by (`reaches_append_iff`).
Where the run of the first code is NOT clean, nothing is said: more code can turn a push that was
too short into one that is long enough.
-/
import Mathlib
import ScriptTemplate.Proofs.MachineSafety

namespace ScriptTemplate.Machine

/-! ## 1. Steps of a code that is put together -/

/-- A point that stands behind so many more bytes. -/
def Point.advanced (point : Point) (before : Nat) : Point :=
  { point with read := before + point.read }

/-- At each point there is one way to go on. -/
theorem Step.unique {code : Bytes} {p q q' : Point} (step : Step code p q)
    (step' : Step code p q') : q = q' := by
  obtain ⟨fetched, proceeds⟩ := step
  obtain ⟨fetched', proceeds'⟩ := step'
  obtain ⟨rfl, rfl⟩ := List.cons.inj (fetched.symm.trans fetched')
  obtain ⟨rfl, rfl⟩ := Effect.proceed.inj (proceeds.symm.trans proceeds')
  rfl

/-- **More code behind changes no step.** -/
theorem Step.append {code : Bytes} {p q : Point} (step : Step code p q) (more : Bytes) :
    Step (code ++ more) p q := by
  obtain @⟨stack, after, read, used, opcode, rest, fetched, proceeds⟩ := step
  have inside : read ≤ code.length := by
    have length := length_of_drop fetched
    omega
  have fetched' : (code ++ more).drop read = opcode :: (rest ++ more) := by
    rw [List.drop_append_of_le_length inside, fetched, List.cons_append]
  exact .intro fetched' (effect_append proceeds more)

/-- **Behind other code the steps are the same**, further back. -/
theorem step_advanced_iff {before code : Bytes} {p q : Point} :
    Step (before ++ code) (p.advanced before.length) q ↔
      ∃ next, Step code p next ∧ q = next.advanced before.length := by
  obtain ⟨stack, read⟩ := p
  have same : (before ++ code).drop (before.length + read) = code.drop read :=
    List.drop_length_add_append read
  have moved (after : Stack) (used : Nat) :
      (Point.mk after (read + 1 + used)).advanced before.length =
        ⟨after, before.length + read + 1 + used⟩ := by
    simp only [Point.advanced, Nat.add_assoc]
  constructor
  · rintro ⟨fetched, proceeds⟩
    exact ⟨_, .intro (same.symm.trans fetched) proceeds, (moved _ _).symm⟩
  · rintro ⟨next, ⟨fetched, proceeds⟩, rfl⟩
    rw [moved]
    exact .intro (same.trans fetched) proceeds

/-! ## 2. Runs of a code that is put together -/

/-- **A clean run** of a code, from one stack to another: it ends without a fault. -/
def RunsTo (code : Bytes) (stack after : Stack) : Prop :=
  ∃ state, run stack code = some state ∧ state.fault = none ∧ state.stack = after

theorem Reaches.append {code : Bytes} {p q : Point} (reaches : Reaches code p q) (more : Bytes) :
    Reaches (code ++ more) p q := by
  refine Relation.ReflTransGen.mono ?_ _ _ reaches
  intro point next step
  exact Step.append step more

theorem Reaches.advanced {before code : Bytes} {p q : Point} (reaches : Reaches code p q) :
    Reaches (before ++ code) (p.advanced before.length) (q.advanced before.length) := by
  refine Relation.ReflTransGen.lift (Point.advanced · before.length) ?_ _ _ reaches
  intro point next step
  exact step_advanced_iff.mpr ⟨next, step, rfl⟩

theorem Reaches.read_le {code : Bytes} {p q : Point} (reaches : Reaches code p q)
    (inside : p.read ≤ code.length) : q.read ≤ code.length := by
  cases reaches with
  | refl => exact inside
  | tail _ step => exact step.read_le

namespace RunsTo

variable {code : Bytes} {stack after : Stack}

/-- **A clean run goes from every point that it comes by to the end of its code.** -/
theorem reaches_end (clean : RunsTo code stack after) {p : Point}
    (reached : Reaches code ⟨stack, 0⟩ p) : Reaches code p ⟨after, code.length⟩ := by
  obtain ⟨state, ran, unfaulted, rfl⟩ := clean
  have inside : p.read ≤ code.length := reached.read_le (Nat.zero_le _)
  have ends : Ends code p (some state) := by
    rw [← ran, run, show code = code.drop 0 from rfl, runFrom_of_reaches reached]
    exact ends_runFrom rfl inside
  obtain ⟨whole, reaches⟩ := ends.of_clean unfaulted
  rw [← whole]
  exact reaches

/-- So before the end of its code, a clean run has a next step. -/
theorem eq_or_step (clean : RunsTo code stack after) {p : Point}
    (reached : Reaches code ⟨stack, 0⟩ p) :
    p = ⟨after, code.length⟩ ∨ ∃ q, Step code p q := by
  rcases (clean.reaches_end reached).cases_head with atEnd | ⟨q, step, -⟩
  · exact .inl atEnd
  · exact .inr ⟨q, step⟩

end RunsTo

section Composed

variable {first second : Bytes} {stack middle : Stack}

/-- **What a run of two codes comes by**: all that the run of the first comes by, and then all that
the run of the second comes by, further back. -/
theorem reaches_append_iff (clean : RunsTo first stack middle) {p : Point} :
    Reaches (first ++ second) ⟨stack, 0⟩ p ↔
      Reaches first ⟨stack, 0⟩ p ∨
        ∃ q, Reaches second ⟨middle, 0⟩ q ∧ p = q.advanced first.length := by
  constructor
  · intro reached
    -- The induction follows the run of the whole; each step is one of the code that it stands in.
    induction reached with
    | refl => exact .inl .refl
    | @tail p q _ step ih =>
      rcases ih with inFirst | ⟨p, inSecond, rfl⟩
      · rcases clean.eq_or_step inFirst with rfl | ⟨next, own⟩
        · have atSeam : Step (first ++ second) ((Point.mk middle 0).advanced first.length) q := step
          obtain ⟨next, own, rfl⟩ := step_advanced_iff.mp atSeam
          exact .inr ⟨next, .single own, rfl⟩
        · obtain rfl := step.unique (own.append second)
          exact .inl (.tail inFirst own)
      · obtain ⟨next, own, rfl⟩ := step_advanced_iff.mp step
        exact .inr ⟨next, .tail inSecond own, rfl⟩
  · rintro (inFirst | ⟨q, inSecond, rfl⟩)
    · exact inFirst.append second
    · have toSeam := (clean.reaches_end .refl).append second
      exact Relation.ReflTransGen.trans toSeam inSecond.advanced

/-- **Runs compose.**  If a code runs from one stack to another without a fault, then running it
with a second code behind it ends as the second code alone ends from that stack: with the same
stack, the same fault or none, or no outcome just the same; only all of the first code has been read
besides.  On the way it comes by what the two runs come by, and by nothing else. -/
theorem run_composes (clean : RunsTo first stack middle) :
    run stack (first ++ second) = (run middle second).map (·.advanced first.length) ∧
    ∀ p, Reaches (first ++ second) ⟨stack, 0⟩ p ↔
      Reaches first ⟨stack, 0⟩ p ∨
        ∃ q, Reaches second ⟨middle, 0⟩ q ∧ p = q.advanced first.length := by
  refine ⟨?_, fun p => reaches_append_iff clean⟩
  obtain ⟨state, ran, unfaulted, rfl⟩ := clean
  exact (run_append ran unfaulted second).2

/-- A code that leaves two equal items, and three that may follow: one compares them, one asks for
more than there is, and one ends where a length is due. -/
theorem run_composes_duplicated :
    RunsTo [0x01, 0x4c, 0x76] [] [[0x4c], [0x4c]] ∧
    run [] ([0x01, 0x4c, 0x76] ++ [0x87]) = some ⟨[[1]], 4, none⟩ ∧
    run [] ([0x01, 0x4c, 0x76] ++ [0x75, 0x87]) = some ⟨[[0x4c]], 5, some .emptyStack⟩ ∧
    run [] ([0x01, 0x4c, 0x76] ++ [0x4c]) = none := by
  have clean : RunsTo [0x01, 0x4c, 0x76] [] [[0x4c], [0x4c]] :=
    ⟨⟨[[0x4c], [0x4c]], 3, none⟩, by cbv, rfl, rfl⟩
  refine ⟨clean, (run_composes clean).1.trans ?_, (run_composes clean).1.trans ?_,
    (run_composes clean).1.trans ?_⟩ <;> cbv

end Composed

end ScriptTemplate.Machine
