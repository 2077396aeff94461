import FlipSat.Fault

/-
  FlipSat: the outcome of a search. Local search can only ever find a solution; when it gives up,
  the outcome holds the best assignment that was seen.
-/
namespace FlipSat

/-- How a search ended. -/
inductive Status where
  | unknown
  | satisfiable
  | timeout
  | interrupted
deriving DecidableEq, Repr, Inhabited

namespace Status

def name : Status → String
  | .unknown => "unknown"
  | .satisfiable => "satisfiable"
  | .timeout => "timeout"
  | .interrupted => "interrupted"

/-- The name in capital letters. -/
def title : Status → String
  | .unknown => "UNKNOWN"
  | .satisfiable => "SATISFIABLE"
  | .timeout => "TIMEOUT"
  | .interrupted => "INTERRUPTED"

/-- The status with the given name. -/
def ofName? (s : String) : Option Status :=
  [unknown, satisfiable, timeout, interrupted].find? fun status => status.name == s

end Status

/-- One line about an outcome; the number of tries is of interest only without a solution. -/
def outcomeLine (status : Status) (satisfied total flips tries seconds : String) : String :=
  "SAT Result: " ++ status.title ++ " (" ++ satisfied ++ "/" ++ total ++ " clauses, " ++ flips ++
    " flips, " ++ (if status == .satisfiable then "" else tries ++ " tries, ") ++ seconds ++ "s)"

/-- The outcome of a search. -/
structure SearchResult where
  status : Status := .unknown
  assignment : Option Valuation := none
  flips : Int := 0
  tries : Int := 0
  runtime : Binary64 := .zero false
  satisfied : Int := 0
  total : Int := 0
  statistics : Entries := []
  errorMessage : Option String := none
deriving Repr

namespace SearchResult

/-- Was a satisfying assignment found? -/
def isSat (r : SearchResult) : Bool := r.status == .satisfiable

/-- The part of the clauses that is satisfied; all of them when there are none. -/
def ratio (r : SearchResult) : Except Fault Binary64 :=
  if r.total = 0 then .ok .one
  else match Binary64.divInt? r.satisfied r.total with
    | some x => .ok x
    | none => .error (.tooLarge "integer division result too large for a float")

/-- One line about the outcome. -/
def summary (r : SearchResult) : String :=
  outcomeLine r.status (Text.showInt r.satisfied) (Text.showInt r.total) (Text.showInt r.flips)
    (Text.showInt r.tries) (r.runtime.fixed 4)

end SearchResult

/-- Truth values as a table. -/
def Valuation.toValue (v : Valuation) : Value :=
  .table (v.map fun e => (.text e.1, .bool e.2))

/-- The outcome as a table. -/
def SearchResult.toValue (r : SearchResult) : Value :=
  .table [
    (.text "status", .text r.status.name),
    (.text "assignment", match r.assignment with | some v => v.toValue | none => .null),
    (.text "flips", .int r.flips),
    (.text "tries", .int r.tries),
    (.text "runtime", .real r.runtime),
    (.text "satisfied_clauses", .int r.satisfied),
    (.text "total_clauses", .int r.total),
    (.text "statistics", .table r.statistics),
    (.text "error_message", match r.errorMessage with | some m => .text m | none => .null)]

end FlipSat
