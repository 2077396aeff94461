import FlipSat.Random.Twister
import FlipSat.Value.Basic

/-
  FlipSat: where the random decisions of a search come from.
  A source answers two questions: which of `n` things to take, and whether something of a given
  probability happens. The search asks nothing else of it.
-/
namespace FlipSat

/-- A source of random decisions with states of type `σ`. -/
class RandomSource (σ : Type) where
  /-- Chooses one of `n` things. -/
  choose : σ → (n : Nat) → 0 < n → Fin n × σ
  /-- Decides something that happens in `p` of a hundred cases. -/
  percent : σ → Int → Bool × σ

/-- A source that draws from a seeded generator. -/
structure Seeded where
  seed : Value
  twister : Twister
deriving Inhabited

namespace Seeded

/-- The source seeded by an integer or a truth value. -/
def ofSeed (seed : Value) : Seeded :=
  ⟨seed, Twister.ofSeed (match seed with
    | .int n => n
    | .bool b => if b then 1 else 0
    | _ => 0)⟩

def describe (s : Seeded) : String := "SeededRandomSource(seed=" ++ s.seed.literal ++ ")"

end Seeded

instance : RandomSource Seeded where
  choose s n h :=
    let (i, t) := s.twister.below n h
    (i, { s with twister := t })
  percent s p :=
    let (i, t) := s.twister.below 100 (by decide)
    ((i.val : Int) < p, { s with twister := t })

/-- A source that takes its decisions from a list of integers, and from zeros after its end. -/
structure Script where
  upcoming : List Int

instance : RandomSource Script where
  choose s n h :=
    let v := s.upcoming.headD 0
    (⟨(v % n).toNat, by
      have hn : (n : Int) ≠ 0 := by omega
      have := Int.emod_lt_of_pos v (show (0 : Int) < n by omega)
      have := Int.emod_nonneg v hn
      omega⟩, ⟨s.upcoming.tail⟩)
  percent s p := (s.upcoming.headD 0 % 100 < p, ⟨s.upcoming.tail⟩)

/-- Either of two kinds of source. -/
instance {σ τ : Type} [RandomSource σ] [RandomSource τ] : RandomSource (σ ⊕ τ) where
  choose s n h :=
    match s with
    | .inl s => let (i, s) := RandomSource.choose s n h; (i, .inl s)
    | .inr s => let (i, s) := RandomSource.choose s n h; (i, .inr s)
  percent s p :=
    match s with
    | .inl s => let (b, s) := RandomSource.percent s p; (b, .inl s)
    | .inr s => let (b, s) := RandomSource.percent s p; (b, .inr s)

/-- What a source was asked. -/
inductive RandomCall where
  | choose (n : Nat)
  | percent (p : Int)
deriving DecidableEq, Repr

def RandomCall.text : RandomCall → String
  | .choose n => "c" ++ Text.showNat n
  | .percent p => "p" ++ Text.showInt p

/-- A source together with the questions it was asked, the last one first. -/
structure Recorded (σ : Type) where
  source : σ
  calls : List RandomCall := []

namespace Recorded

variable {σ : Type}

/-- The questions since the last time, in order. -/
def flush (r : Recorded σ) : List RandomCall × Recorded σ :=
  (r.calls.reverse, { r with calls := [] })

end Recorded

instance {σ : Type} [RandomSource σ] : RandomSource (Recorded σ) where
  choose r n h :=
    let (i, s) := RandomSource.choose r.source n h
    (i, ⟨s, .choose n :: r.calls⟩)
  percent r p :=
    let (b, s) := RandomSource.percent r.source p
    (b, ⟨s, .percent p :: r.calls⟩)

/-- A random truth value: of the two, the first is true. -/
def randomBool {σ : Type} [RandomSource σ] (s : σ) : Bool × σ :=
  let (i, s) := RandomSource.choose s 2 (by decide)
  (i.val = 0, s)

end FlipSat
