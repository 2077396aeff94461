import FlipSat.Search.Result
import FlipSat.Value.Arithmetic
import FlipSat.Value.Named

/-
  FlipSat: outcomes of searches as callers report them, with values of any sort in them. A report
  of a search of this library reads like its outcome.
-/
namespace FlipSat

/-- The outcome of a search, as it is reported. -/
structure SearchReport where
  status : Status := .unknown
  assignment : Value := .null
  flips : Value := .int 0
  tries : Value := .int 0
  runtime : Value := .real (.zero false)
  satisfied : Value := .int 0
  total : Value := .int 0
  statistics : Value := .table []
  errorMessage : Value := .null
deriving Repr, Inhabited

namespace SearchReport

/-- The names of what a report is made of. -/
def names : List String :=
  ["status", "assignment", "flips", "tries", "runtime", "satisfied_clauses", "total_clauses",
    "statistics", "error_message"]

/-- The status that a value names. -/
def statusOf (v : Value) : Except Fault Status :=
  match v with
  | .text s =>
    match Status.ofName? s with
    | some status => .ok status
    | none => .error .badStatus
  | _ => .error .badStatus

/-- The report that named values make. What is not given has its default, and so have statistics
    that are empty. -/
def ofNamed (es : Entries) : Except Fault SearchReport := do
  let standard : SearchReport := {}
  let status ← statusOf (es.named "status" (.text standard.status.name))
  es.onlyNames names
  let statistics := es.named "statistics" standard.statistics
  pure
    { status := status
      assignment := es.named "assignment" standard.assignment
      flips := es.named "flips" standard.flips
      tries := es.named "tries" standard.tries
      runtime := es.named "runtime" standard.runtime
      satisfied := es.named "satisfied_clauses" standard.satisfied
      total := es.named "total_clauses" standard.total
      statistics := if statistics.truth then statistics else standard.statistics
      errorMessage := es.named "error_message" standard.errorMessage }

/-- Was a satisfying assignment found? -/
def isSat (r : SearchReport) : Bool := r.status == .satisfiable

/-- The part of the clauses that is satisfied; all of them when there are none. -/
def ratio (r : SearchReport) : Except Fault Binary64 :=
  if r.total.same (.int 0) then .ok .one else r.satisfied.quotient r.total

/-- One line about the outcome. -/
def summary (r : SearchReport) : Except Fault String := do
  let seconds ← r.runtime.fixed 4
  pure (outcomeLine r.status r.satisfied.display r.total.display r.flips.display r.tries.display
    seconds)

end SearchReport

/-- The report of an outcome. -/
def SearchResult.report (r : SearchResult) : SearchReport :=
  { status := r.status
    assignment := match r.assignment with | some v => v.toValue | none => .null
    flips := .int r.flips
    tries := .int r.tries
    runtime := .real r.runtime
    satisfied := .int r.satisfied
    total := .int r.total
    statistics := .table r.statistics
    errorMessage := match r.errorMessage with | some m => .text m | none => .null }

end FlipSat
