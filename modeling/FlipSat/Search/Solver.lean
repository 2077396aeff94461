import FlipSat.Search.Result
import FlipSat.Search.Try

/-
  FlipSat: the search for a solution of a formula. It makes tries until one of them ends otherwise
  than by using up its flips, and answers with the best assignment of all tries.
-/
namespace FlipSat

variable {σ : Type}

/-- A solver of one formula. Between searches it keeps the source, the clock, the problem of the
    last try and the statistics of the last search. `traceback` tells the way to the place where a
    fault arose; without one that knows it, all that is told is the fault itself. -/
structure Solver (σ : Type) where
  formula : Formula
  parameters : Parameters
  given : Option Valuation
  traced : Bool
  source : Watched σ
  clock : Clock
  problem : Option Problem := none
  statistics : Entries
  traceback : Fault → String := fun e => e.kind ++ ": " ++ e.message

/-- A search in its course, between two tries. The last report comes first. -/
structure Search (σ : Type) where
  source : Watched σ
  clock : Clock
  problem : Option Problem
  best : Option Best := none
  flips : Nat := 0
  tries : Nat := 0
  events : List SearchEvent := []

/-- What a search leaves behind: the solver, the reports in order, and the result. -/
structure Answer (σ : Type) where
  solver : Solver σ
  events : List SearchEvent
  result : Except Fault SearchResult

namespace Solver

/-- The name of the method. -/
def method : String := "walksat"

/-- A solver of a formula. -/
def ofFormula (f : Formula) (p : Parameters) (given : Option Valuation) (traced : Bool)
    (source : Watched σ) (clock : Clock) : Solver σ :=
  { formula := f
    parameters := p
    given := given
    traced := traced
    source := source
    clock := clock
    statistics := [
      (.text "flips", .int 0), (.text "tries", .int 0), (.text "satisfied_clauses", .int 0),
      (.text "total_clauses", .int f.length), (.text "solver_name", .text method)] }

/-- Asks the search to stop after the flip that it is at. -/
def interrupt (s : Solver σ) : Solver σ := { s with source := s.source.interrupt }

/-! ## Tries -/

/-- The end of a try, with what is said and recorded of it. -/
def closing (s : Solver σ) (index : Nat) (began : Binary64) (t : TryState σ) (ending : Ending) :
    TryState σ :=
  let t := t.report (.finished ("Try " ++ Text.showNat index ++ " finished: " ++ ending.name ++
    " after " ++ Text.showNat t.flips ++ " flips"))
  if s.traced then
    let (now, clock, source) := t.clock.read t.source
    let t := { t with clock := clock, source := source }
    t.report (.trace (.tryResult (.int index) (.int t.flips) (.bool (ending == .solved))
      (.int t.problem.satisfiedCount) (.real (now.sub began))))
  else t

/-- What is recorded of a fault in a try. -/
def complaint (s : Solver σ) (index : Nat) (e : Fault) : List SearchEvent :=
  if s.traced then
    [.trace (.exception (.int index) (.text e.kind) (.text e.message) (.text (s.traceback e)))]
  else []

/-- The search after a try. What a try that solved the problem shows at its end counts as the best
    of all. -/
def after (r : Search σ) (t : TryState σ) (ending : Ending) : Search σ :=
  { r with
    source := t.source
    clock := t.clock
    problem := some t.problem
    best := if ending = .solved then some (.ofProblem t.problem) else t.best
    flips := r.flips + t.flips
    events := t.events ++ r.events }

/-- The search after a try that a fault has stopped. Its flips do not count. -/
def stopped (s : Solver σ) (r : Search σ) (t : TryState σ) (e : Fault) : Search σ :=
  { r with
    source := t.source
    clock := t.clock
    problem := some t.problem
    best := t.best
    events := s.complaint r.tries e ++ t.events ++ r.events }

/-- What is fixed during the try with the given number. -/
def attempt (s : Solver σ) (deadline : Option Binary64) (index : Nat) : Attempt :=
  { parameters := s.parameters, index := index, deadline := deadline, traced := s.traced }

/-- A search at the start of its next try, after a look at the clock. -/
def begun (r : Search σ) : Search σ :=
  let (_, clock, source) := r.clock.read r.source
  { r with clock := clock, source := source, tries := r.tries + 1 }

/-- Starts the try that a search has begun. Given values count for the first one only. -/
def startTry [RandomSource σ] (s : Solver σ) (deadline : Option Binary64) (r : Search σ) :
    Except Fault (TryState σ × Option Fault) :=
  (s.attempt deadline r.tries).start s.formula (if r.tries = 1 then s.given else none) r.source
    r.clock r.best

/-- One try. -/
def oneTry [RandomSource σ] (s : Solver σ) (deadline : Option Binary64) (r : Search σ) :
    Search σ × Except Fault Ending :=
  let began := r.clock.now
  let r := begun r
  match s.startTry deadline r with
  | .error e => ({ r with events := s.complaint r.tries e ++ r.events }, .error e)
  | .ok (t, some e) => (s.stopped r t e, .error e)
  | .ok (t, none) =>
    match (s.attempt deadline r.tries).run t with
    | (t, .error e) => (s.stopped r t e, .error e)
    | (t, .ok ending) => (after r (s.closing r.tries began t ending) ending, .ok ending)

/-- At most `n` tries; the search goes on after a try that has used up its flips. -/
def tryUpTo [RandomSource σ] (s : Solver σ) (deadline : Option Binary64) :
    Nat → Search σ → Search σ × Except Fault Ending
  | 0, r => (r, .ok .exhausted)
  | n + 1, r =>
    match s.oneTry deadline r with
    | (r, .ok .exhausted) => tryUpTo s deadline n r
    | (r, ending) => (r, ending)

/-! ## Results -/

/-- The status after the last try. -/
def statusOf : Ending → Status
  | .solved => .satisfiable
  | .exhausted => .unknown
  | .timeout => .timeout
  | .interrupted => .interrupted

/-- Why there is no solution. -/
def reasonOf (timeout : Value) : Ending → Option String
  | .solved => none
  | .exhausted => some "Maximum tries reached without finding a solution"
  | .timeout => some ("Timeout reached (" ++ timeout.display ++ "s)")
  | .interrupted => some "Solving was interrupted"

/-- The statistics after a search. -/
def statisticsOf (s : Solver σ) (r : Search σ) (runtime : Binary64) : Entries :=
  let satisfied := (r.best.map (·.satisfied)).getD 0
  let stats := s.statistics.put (.text "flips") (.int r.flips)
  let stats := stats.put (.text "tries") (.int r.tries)
  let stats := stats.put (.text "satisfied_clauses") (.int satisfied)
  let stats := stats.put (.text "runtime") (.real runtime)
  match r.problem with
  | some p => stats.put (.text "propositions") (.int p.inst.vocabulary.size)
  | none => stats

/-- The solver after a search that was left off. -/
def leftAt (s : Solver σ) (r : Search σ) : Solver σ :=
  { s with source := r.source, clock := r.clock, problem := r.problem }

/-- The answer of a search that ended. -/
def conclude (s : Solver σ) (started : Binary64) (timeout : Value) (r : Search σ)
    (ending : Ending) : Answer σ :=
  let (now, clock, source) := r.clock.read r.source
  let runtime := now.sub started
  let r := { r with clock := clock, source := source }
  let stats := s.statisticsOf r runtime
  { solver := { s.leftAt r with statistics := stats }
    events := r.events.reverse
    result := .ok
      { status := statusOf ending
        assignment := r.best.map (·.assignment)
        flips := r.flips
        tries := r.tries
        runtime := runtime
        satisfied := (r.best.map (·.satisfied)).getD 0
        total := s.formula.length
        statistics := stats
        errorMessage := reasonOf timeout ending } }

/-! ## Budgets -/

/-- A timeout that is asked for has to be a positive number. -/
def checkTimeout (v : Value) : Except Fault Unit :=
  match v with
  | .null => .ok ()
  | .bool _ => .error (.ofConfig (.timeoutArgument v))
  | v =>
    match v.number? with
    | some (.inl n) => if n ≤ 0 then .error (.ofConfig (.timeoutArgument v)) else .ok ()
    | some (.inr x) =>
      if x.le (.zero false) then .error (.ofConfig (.timeoutArgument v)) else .ok ()
    | none => .error (.mistyped "a timeout is a number")

/-- The instant at which a timeout has passed. Without a timeout there is none. -/
def deadlineOf (started : Binary64) (timeout : Value) : Except Fault (Option Binary64) :=
  if !timeout.truth then .ok none
  else match timeout.number? with
    | some n => do
      let seconds ← realOfNumber n
      pure (some (started.add seconds))
    | none => .error (unsupported "+" (.real started) timeout)

/-- The greatest number of tries. -/
def triesOf (p : Parameters) : Except Fault Nat :=
  match p.maxTries with
  | .int n => .ok n.toNat
  | _ => .error (.mistyped "the number of tries is an integer")

/-- A search before its first try. -/
def opening (s : Solver σ) : Search σ :=
  { source := s.source, clock := s.clock, problem := s.problem }

/-- What bounds a search: the instant at which it has to stop, and the number of tries. -/
structure Budget where
  started : Binary64
  timeout : Value
  deadline : Option Binary64
  tries : Nat

/-- Gets a solver ready to search. The timeout of the parameters counts where none is asked for. A
    stop that was asked for before has no effect. -/
def ready (s : Solver σ) (timeout : Value) : Solver σ × Except Fault Budget :=
  match checkTimeout timeout with
  | .error e => (s, .error e)
  | .ok () =>
    let timeout := if timeout.isNull then s.parameters.timeout else timeout
    let (started, clock, source) := s.clock.read s.source
    let s := { s with clock := clock, source := source }
    match deadlineOf started timeout with
    | .error e => (s, .error e)
    | .ok deadline =>
      let s := { s with source := s.source.resume }
      match triesOf s.parameters with
      | .error e => (s, .error e)
      | .ok tries => (s, .ok ⟨started, timeout, deadline, tries⟩)

/-- Searches for a solution. -/
def solve [RandomSource σ] (s : Solver σ) (timeout : Value) : Answer σ :=
  match s.ready timeout with
  | (s, .error e) => ⟨s, [], .error e⟩
  | (s, .ok b) =>
    match s.tryUpTo b.deadline b.tries s.opening with
    | (r, .error e) => ⟨s.leftAt r, r.events.reverse, .error e⟩
    | (r, .ok ending) => s.conclude b.started b.timeout r ending

/-- The report of a search without a solution. -/
def unsolved (r : SearchResult) : Unsolved :=
  { message := match r.errorMessage with
      | some m => if m == "" then "No solution found" else m
      | none => "No solution found"
    seconds := some r.runtime
    satisfied := some r.satisfied
    best := r.assignment }

/-- Searches for a solution; that there is none is a fault. -/
def solveOrFail [RandomSource σ] (s : Solver σ) (timeout : Value) : Answer σ :=
  let answer := s.solve timeout
  match answer.result with
  | .error _ => answer
  | .ok r => if r.isSat then answer else { answer with result := .error (.unsolved (unsolved r)) }

end Solver

end FlipSat
