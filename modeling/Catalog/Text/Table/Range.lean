/-! Sets of code points given as ranges, and maps given as shifted runs. -/
namespace Catalog.Text

/-- Whether one of the ranges, ends included, holds the code point. -/
def inRanges (ranges : List (Nat × Nat)) (n : Nat) : Bool :=
  ranges.any fun (lo, hi) => decide (lo ≤ n) && decide (n ≤ hi)

/-- The code point moved by the first run that holds it; a run is its ends, its step and its shift. -/
def shifted (runs : List (Nat × Nat × Nat × Int)) (n : Nat) : Nat :=
  match runs.find? fun (lo, hi, step, _) => decide (lo ≤ n) && decide (n ≤ hi) && (n - lo) % step == 0 with
  | some (_, _, _, shift) => (n + shift).toNat
  | none => n

end Catalog.Text
