import FlipSat.Value.Arithmetic

/-
  FlipSat: what a trace records of a search. A record is made of values of any sort; only the
  counts of a sample have to be numbers.
-/
namespace FlipSat

/-- A record of a trace, of one of three sorts. -/
inductive TraceRecord where
  /-- A sample taken during a try. -/
  | progress (tryIndex flips unsatisfied total noise : Value)
  /-- The end of a try. -/
  | tryResult (tryIndex flips solved satisfied runtime : Value)
  /-- A fault that stopped a try, with the way to the place where it arose. -/
  | exception (tryIndex kind message stack : Value)
deriving Repr

/-- A field of a record. -/
structure TraceField where
  name : String
  value : Value
deriving Repr

namespace TraceRecord

/-- The name of the sort of a record. -/
def event : TraceRecord → String
  | .progress .. => "progress"
  | .tryResult .. => "try_result"
  | .exception .. => "exception"

/-- The part of the clauses that is satisfied; all of them when there are none. -/
def satisfactionRatio (satisfied total : Value) : Except Fault Binary64 := do
  if ← (Value.int 0).isLess total then satisfied.quotient total else pure .one

/-- The fields of a record in their order; the last one is the time at which it is written. -/
def fields (now : Binary64) : TraceRecord → Except Fault (List TraceField)
  | .progress tryIndex flips unsatisfied total noise => do
    let satisfied ← total.minus unsatisfied
    let ratio ← satisfactionRatio satisfied total
    pure [
      { name := "try", value := tryIndex },
      { name := "flips", value := flips },
      { name := "unsatisfied_count", value := unsatisfied },
      { name := "satisfied_count", value := satisfied },
      { name := "total_count", value := total },
      { name := "satisfaction_ratio", value := .real ratio },
      { name := "noise_level", value := noise },
      { name := "timestamp", value := .real now }]
  | .tryResult tryIndex flips solved satisfied runtime =>
    .ok [
      { name := "try", value := tryIndex },
      { name := "flips", value := flips },
      { name := "solved", value := solved },
      { name := "satisfied_count", value := satisfied },
      { name := "runtime", value := runtime },
      { name := "timestamp", value := .real now }]
  | .exception tryIndex kind message stack =>
    .ok [
      { name := "try", value := tryIndex },
      { name := "exception_type", value := kind },
      { name := "exception_message", value := message },
      { name := "stack_trace", value := stack },
      { name := "timestamp", value := .real now }]

end TraceRecord

end FlipSat
