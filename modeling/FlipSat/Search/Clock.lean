import FlipSat.Binary64.Basic
import FlipSat.Random.Watched

/-
  FlipSat: the clock of a search. It is read now and then; what it shows at each reading is given
  in advance, so that a search is a function of its inputs.
-/
namespace FlipSat

/-- A clock that was read `reads` times. -/
structure Clock where
  reading : Nat → Binary64
  reads : Nat := 0

namespace Clock

/-- What the clock shows now; the next reading is the one after it. -/
def now (c : Clock) : Binary64 := c.reading c.reads

def next (c : Clock) : Clock := { c with reads := c.reads + 1 }

/-- Reads the clock, during which a stop may be asked for. -/
def read {σ : Type} (c : Clock) (w : Watched σ) : Binary64 × Clock × Watched σ :=
  (c.now, c.next, w.duringReading c.reads)

/-- A clock that starts at zero and goes on by the same time at every reading. -/
def steady (tick : Binary64) : Clock :=
  { reading := fun n => ((Binary64.ofInt? n).getD .nan).mul tick }

end Clock

/-- The clock on the wall: the seconds and the date that it shows at each reading. -/
structure WallClock where
  seconds : Nat → Binary64
  date : Nat → String

end FlipSat
