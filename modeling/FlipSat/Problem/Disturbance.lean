import FlipSat.Problem.Basic
import FlipSat.Stored
import FlipSat.Value.Arithmetic

/-
  FlipSat: putting wrong counts into a problem, to see what becomes of them. Counts are kept in
  machine words: a sum that does not fit loses its front.
-/
namespace FlipSat.Problem

/-- The least number of a machine word, which also stands for what has no place in one. -/
def leastWord : Int := -(Nat.pow 2 63)

/-- The sum of a count and a value. -/
def disturbedCount (count : Int) (v : Value) : Except Fault Int :=
  match v.number? with
  | some (.inl n) =>
    if fits true 64 n then .ok (wrapped true 64 (count + n))
    else .error (.tooLarge "the number does not fit into a machine word")
  | some (.inr x) => do
    let start ← realOfNumber (.inl count)
    match (start.add x).truncate? with
    | some n => pure (if fits true 64 n then n else leastWord)
    | none => pure leastWord
  | none => .error (unsupported "+" (.int count) v)

/-- The problem with a value added to the count of clause `i`. -/
def disturb (p : Problem) (i : Nat) (v : Value) : Except Fault Problem := do
  let count ← disturbedCount (p.tally.count i) v
  pure { p with tally := { p.tally with counts := p.tally.counts.setIfInBounds i count } }

end FlipSat.Problem
