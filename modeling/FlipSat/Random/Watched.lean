import FlipSat.Random.Source

/-
  FlipSat: a source of random decisions during whose questions someone may ask the search to stop.
  The request is a flag that the search looks at between its steps, so only the order of requests
  and looks matters: between two looks there is always a question, and before the first look of a
  search the clock is read.
-/
namespace FlipSat

/-- During which questions, and during which readings of the clock, a stop is asked for; each sort
    is counted from zero. -/
structure Interrupts where
  duringChoice : Nat → Bool := fun _ => false
  duringPercent : Nat → Bool := fun _ => false
  duringReading : Nat → Bool := fun _ => false

/-- A source with the number of questions it was asked, and whether a stop was asked for. -/
structure Watched (σ : Type) where
  source : σ
  interrupts : Interrupts := {}
  choices : Nat := 0
  percents : Nat := 0
  interrupted : Bool := false

namespace Watched

variable {σ : Type}

/-- Asks for a stop. -/
def interrupt (w : Watched σ) : Watched σ := { w with interrupted := true }

/-- What is asked for while the clock is read for the time with number `n`. -/
def duringReading (w : Watched σ) (n : Nat) : Watched σ :=
  { w with interrupted := w.interrupted || w.interrupts.duringReading n }

/-- Forgets that a stop was asked for. -/
def resume (w : Watched σ) : Watched σ := { w with interrupted := false }

end Watched

instance {σ : Type} [RandomSource σ] : RandomSource (Watched σ) where
  choose w n h :=
    let (i, s) := RandomSource.choose w.source n h
    (i, { w with
      source := s
      choices := w.choices + 1
      interrupted := w.interrupted || w.interrupts.duringChoice w.choices })
  percent w p :=
    let (b, s) := RandomSource.percent w.source p
    (b, { w with
      source := s
      percents := w.percents + 1
      interrupted := w.interrupted || w.interrupts.duringPercent w.percents })

end FlipSat
