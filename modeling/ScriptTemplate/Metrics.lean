/-
# Metrics (`MetricsRegistry`)

Counts of outcomes and transforms of top-level compilations, of circular references, and the
distributions of durations and depths.

A histogram keeps a count, a sum and a greatest value.  The sum is a double, the greatest value is
kept as it was observed.  An integer beyond the doubles is counted and compared, and cannot be
added; the sum then stays as it is.
-/
import ScriptTemplate.Dictionary
import ScriptTemplate.Json.Basic
import ScriptTemplate.Number.Basic

namespace ScriptTemplate.Metrics

/-- Counts by label, in the order of first use. -/
structure LabeledCounter where
  counts : Dictionary Nat := []
deriving DecidableEq, Repr, Inhabited

namespace LabeledCounter

/-- The count of a label. -/
def value (counter : LabeledCounter) (label : Text) : Nat := (counter.counts.lookup label).getD 0

/-- Counts a label once more. -/
def increment (counter : LabeledCounter) (label : Text) : LabeledCounter :=
  ⟨counter.counts.insert label (counter.value label + 1)⟩

/-- The sum over all labels. -/
def total (counter : LabeledCounter) : Nat :=
  counter.counts.foldr (fun entry rest => entry.2 + rest) 0

/-- The counts with their labels in the order of code points. -/
def sorted (counter : LabeledCounter) : Dictionary Nat :=
  counter.counts.mergeSort fun a b => a.1 ≤ b.1

end LabeledCounter

/-- The count, sum and greatest of observed values. -/
structure Histogram where
  count : Nat := 0
  sum : Float := 0.0
  greatest : Number := .float 0.0
deriving Repr, Inhabited

namespace Histogram

/-- Whether a value can be added to a sum of doubles. -/
def canAdd : Number → Bool
  | .int n => !Number.exceedsFloat n
  | .float _ => true

/-- A value as a double. -/
def addend : Number → Float
  | .int n => Number.floatOfInt n
  | .float x => x

/-- Takes one more value into account. -/
def observe (h : Histogram) (value : Number) : Histogram where
  count := h.count + 1
  sum := if canAdd value then h.sum + addend value else h.sum
  greatest :=
    if h.count = 0 then value else if value.exceeds h.greatest then value else h.greatest

/-- The mean of the values, zero if there are none. -/
def mean (h : Histogram) : Float :=
  if h.count = 0 then 0.0 else h.sum / Number.floatOfInt h.count

end Histogram

/-- The text of the refusal to add an integer beyond the doubles. -/
def cannotAddMessage : Text := "int too large to convert to float"

/-- All metrics of the compiler. -/
structure Registry where
  /-- Top-level compilations by outcome. -/
  compilations : LabeledCounter := {}
  /-- Transforms applied, by name. -/
  transforms : LabeledCounter := {}
  circularDependencies : Nat := 0
  /-- Durations of top-level compilations, in seconds. -/
  compilationSeconds : Histogram := {}
  /-- The number of ancestors of each script compiled. -/
  dependencyDepth : Histogram := {}
deriving Repr, Inhabited

namespace Registry

/-- Records a finished top-level compilation.  A duration that cannot be added keeps the transform
from being counted. -/
def record (r : Registry) (outcome : Text) (seconds : Number) (transform : Option Text) :
    Registry :=
  let transforms := match transform with
    | some name => if Histogram.canAdd seconds then r.transforms.increment name else r.transforms
    | none => r.transforms
  { r with
    compilations := r.compilations.increment outcome
    compilationSeconds := r.compilationSeconds.observe seconds
    transforms }

/-- Counts a circular reference. -/
def countCycle (r : Registry) : Registry :=
  { r with circularDependencies := r.circularDependencies + 1 }

/-- Records the number of ancestors of a script that is compiled. -/
def observeDepth (r : Registry) (depth : Number) : Registry :=
  { r with dependencyDepth := r.dependencyDepth.observe depth }

end Registry

/-! ## Snapshots -/

/-- The count, mean and greatest value of a histogram. -/
def Histogram.snapshot (h : Histogram) : Json :=
  .obj [("count", .int h.count), ("mean", .float h.mean), ("max", .number h.greatest)]

/-- Sorted counts as an object. -/
def LabeledCounter.snapshot (counter : LabeledCounter) : Json :=
  .obj (counter.sorted.map fun (label, count) => (label, .int count))

/-- All metrics as an object. -/
def Registry.snapshot (r : Registry) : Json :=
  .obj [("compilations", r.compilations.snapshot), ("transforms", r.transforms.snapshot),
    ("circular_dependencies", .int r.circularDependencies),
    ("compilation_seconds", r.compilationSeconds.snapshot),
    ("dependency_depth", r.dependencyDepth.snapshot)]

end ScriptTemplate.Metrics
