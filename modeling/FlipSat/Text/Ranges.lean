/-
  FlipSat: sets of characters given as closed ranges of code points.
-/
namespace FlipSat.Text

/-- Does `n` lie in one of the closed ranges? -/
def inRanges (ranges : List (Nat × Nat)) (n : Nat) : Bool :=
  ranges.any fun r => r.1 ≤ n && n ≤ r.2

end FlipSat.Text
