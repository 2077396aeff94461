import FlipSat.Problem.Step
import FlipSat.Search.Clock
import FlipSat.Search.Event
import FlipSat.Search.Parameters

/-
  FlipSat: one try of a search. A try builds a fresh problem and flips propositions until the
  problem is solved, the flips are used up, the deadline has passed, or a stop is asked for; before
  each flip these are looked at in the order solved, used up, stop, deadline. On the way it keeps
  the best assignment that was ever seen.
-/
namespace FlipSat

variable {σ : Type}

/-- How a try ends. -/
inductive Ending where
  | solved
  | exhausted
  | timeout
  | interrupted
deriving DecidableEq, Repr

def Ending.name : Ending → String
  | .solved => "solved"
  | .exhausted => "exhausted"
  | .timeout => "timeout"
  | .interrupted => "interrupted"

/-- The best assignment seen so far, and the number of clauses that it satisfies. -/
structure Best where
  satisfied : Nat
  assignment : Valuation
deriving DecidableEq, Repr

/-- What a problem shows now. -/
def Best.ofProblem (p : Problem) : Best := ⟨p.satisfiedCount, p.valuation⟩

/-- The better of what was seen before and what a problem shows now; of equals, the earlier. -/
def Best.record (best : Option Best) (p : Problem) : Option Best :=
  match best with
  | none => some (.ofProblem p)
  | some b => if b.satisfied < p.satisfiedCount then some (.ofProblem p) else some b

/-- What is fixed during a try: its number, the instant at which it has to stop, and whether
    records of it are asked for. -/
structure Attempt where
  parameters : Parameters
  index : Nat
  deadline : Option Binary64
  traced : Bool

/-- A try in its course. The last report comes first. -/
structure TryState (σ : Type) where
  problem : Problem
  source : Watched σ
  clock : Clock
  best : Option Best
  flips : Nat := 0
  events : List SearchEvent := []

/-- Reports something. -/
def TryState.report (t : TryState σ) (e : SearchEvent) : TryState σ :=
  { t with events := e :: t.events }

namespace Attempt

/-- What is said at the start of a try. -/
def greeting (a : Attempt) (p : Problem) : Except Fault String :=
  if !a.parameters.maxTries.isWritable then .error .tooManyDigits
  else .ok ("Try " ++ Text.showNat a.index ++ "/" ++ a.parameters.maxTries.display ++ ": " ++
    Text.showNat p.tally.unsatisfied.size ++ " of " ++ Text.showNat p.clauseCount ++
    " clauses unsatisfied at start")

/-- What is said after so many flips of a try. -/
def interim (a : Attempt) (t : TryState σ) : String :=
  "Try " ++ Text.showNat a.index ++ ": " ++ Text.showNat t.flips ++ " flips, " ++
    Text.showNat t.problem.tally.unsatisfied.size ++ " unsatisfied"

/-- The sample of a try for the trace. -/
def sample (a : Attempt) (t : TryState σ) : TraceRecord :=
  .progress (.int a.index) (.int t.flips) (.int t.problem.tally.unsatisfied.size)
    (.int t.problem.clauseCount) (.int t.problem.noise.val)

/-- The problem that a try starts from, and the source after it. -/
def build [RandomSource σ] (a : Attempt) (f : Formula) (given : Option Valuation)
    (source : Watched σ) : Except Fault (Problem × Watched σ) := do
  let noise ← a.parameters.noiseAt (.int 0)
  Problem.build f noise given source

/-- Starts a try: builds the problem, and sees its first assignment. If nothing can be said of the
    try, it stops with the problem built and nothing seen. -/
def start [RandomSource σ] (a : Attempt) (f : Formula) (given : Option Valuation)
    (source : Watched σ) (clock : Clock) (best : Option Best) :
    Except Fault (TryState σ × Option Fault) := do
  let (p, source) ← a.build f given source
  let t : TryState σ :=
    { problem := p
      source := source
      clock := clock
      best := best
      events := [.built p.announcement] }
  match a.greeting p with
  | .error e => pure (t, some e)
  | .ok message => pure ({ t.report (.begun message) with best := Best.record best p }, none)

/-- The problem with the noise for the next flip. -/
def annealed (a : Attempt) (t : TryState σ) : Except Fault Problem :=
  if a.parameters.anneals then do
    let noise ← a.parameters.noiseAt (.int t.flips)
    t.problem.setNoise noise
  else .ok t.problem

/-- Is a report due after so many flips? -/
def due (a : Attempt) (flips : Nat) : Except Fault Bool :=
  match a.parameters.progressInterval with
  | .int n => .ok (n != 0 && (flips : Int) % n == 0)
  | v =>
    if v.truth then .error (unsupported "%" (.int flips) v) else .ok false

/-- Reports how far a try has come, if a report is due. -/
def report (a : Attempt) (t : TryState σ) : TryState σ × Option Fault :=
  match a.due t.flips with
  | .error e => (t, some e)
  | .ok false => (t, none)
  | .ok true =>
    let t := t.report (.going (a.interim t))
    (if a.traced then { t with events := .trace (a.sample t) :: t.events } else t, none)

/-- Compares the bookkeeping with a recount, if that is asked for. -/
def checked (a : Attempt) (p : Problem) : Except Fault Unit :=
  if a.parameters.checkConsistency.truth then p.check else .ok ()

/-- One flip of a try, with all that belongs to it. -/
def flip [RandomSource σ] (a : Attempt) (t : TryState σ) : TryState σ × Option Fault :=
  match a.annealed t with
  | .error e => (t, some e)
  | .ok p =>
    let s := p.step t.source
    let t := { t with problem := s.problem, source := s.source }
    match s.fault with
    | some e => (t, some e)
    | none =>
      let t := { t with flips := t.flips + 1 }
      match a.checked t.problem with
      | .error e => (t, some e)
      | .ok () => a.report { t with best := Best.record t.best t.problem }

/-- Looks at the clock, if there is a deadline. Has it passed? -/
def late (a : Attempt) (t : TryState σ) : Bool × TryState σ :=
  match a.deadline with
  | none => (false, t)
  | some d =>
    let (now, clock, source) := t.clock.read t.source
    (d.le now, { t with clock := clock, source := source })

/-- Goes on with a try for at most `n` flips. -/
def loop [RandomSource σ] (a : Attempt) : Nat → TryState σ → TryState σ × Except Fault Ending
  | 0, t => (t, .ok (if t.problem.isSolved then .solved else .exhausted))
  | n + 1, t =>
    if t.problem.isSolved then (t, .ok .solved)
    else if t.source.interrupted then (t, .ok .interrupted)
    else
      let (isLate, t) := a.late t
      if isLate then (t, .ok .timeout)
      else match a.flip t with
        | (t, some e) => (t, .error e)
        | (t, none) => loop a n t

/-- Goes on with a try until it ends. -/
def run [RandomSource σ] (a : Attempt) (t : TryState σ) : TryState σ × Except Fault Ending :=
  match a.parameters.maxFlips with
  | .int n => a.loop n.toNat t
  | v =>
    if t.problem.isSolved then (t, .ok .solved)
    else (t, .error (incomparable "<" (.int t.flips) v))

end Attempt

end FlipSat
