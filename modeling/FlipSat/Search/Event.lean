import FlipSat.Log.Format
import FlipSat.Trace.Record

/-
  FlipSat: what a search reports while it runs: messages for the log, and records for the trace.
-/
namespace FlipSat

/-- A report of a search. -/
inductive SearchEvent where
  | log (record : LogRecord)
  | trace (record : TraceRecord)
deriving Repr

namespace SearchEvent

/-- The name under which problems report. -/
def problemLogger : String := "gsatwalk.core.problem"

/-- The name under which the solver reports. -/
def solverLogger : String := "gsatwalk.solvers.walksat_solver"

/-- The message of a problem that was built. -/
def built (message : String) : SearchEvent :=
  .log ⟨problemLogger, Level.debug, message, some ⟨"problem", "__init__", 89⟩⟩

/-- The message at the start of a try. -/
def begun (message : String) : SearchEvent :=
  .log ⟨solverLogger, Level.info, message, some ⟨"walksat_solver", "_run_try", 149⟩⟩

/-- The message in the course of a try. -/
def going (message : String) : SearchEvent :=
  .log ⟨solverLogger, Level.debug, message, some ⟨"walksat_solver", "_run_try", 181⟩⟩

/-- The message at the end of a try. -/
def finished (message : String) : SearchEvent :=
  .log ⟨solverLogger, Level.info, message, some ⟨"walksat_solver", "solve", 239⟩⟩

/-- The messages among reports. -/
def logs (es : List SearchEvent) : List LogRecord :=
  es.filterMap fun e => match e with
    | .log r => some r
    | .trace _ => none

/-- The records among reports. -/
def traces (es : List SearchEvent) : List TraceRecord :=
  es.filterMap fun e => match e with
    | .log _ => none
    | .trace r => some r

end SearchEvent

end FlipSat
