import FlipSat.Search.Clock
import FlipSat.Settings.Fault
import FlipSat.Fault
import FlipSat.CommandLine.Arguments

/-
  FlipSat: what a run of the program starts from, and what it leaves behind.
-/
namespace FlipSat.CommandLine

/-- What a run starts from: files, a clock for its budget and one on the wall, a seed for searches
    for which none is set, and how the way to a fault is told. -/
structure Environment where
  files : FileTree := {}
  clock : Clock
  wall : WallClock
  entropy : Int := 0
  traceback : Fault → String

/-- How a run ends: with an exit code, with a refusal of what it was asked for, or with a fault
    that the program has no answer to. -/
inductive ProgramEnd where
  | code (n : Nat)
  | misused (usage program reason : String)
  | refused (fault : Fault)
  | failed (fault : Fault)

/-- What a run leaves behind: files, the output, the messages of the log among what goes to the
    error stream, and how it ended. -/
structure Outcome where
  files : FileTree
  output : String := ""
  log : String := ""
  ending : ProgramEnd

namespace ProgramEnd

/-- The exit code of a run that found a solution, or did what it was asked for. -/
def solved : Nat := 0

/-- The exit code of a search without a solution. -/
def unsolved : Nat := 1

/-- The exit code of a run that could not start. -/
def usage : Nat := 2

/-- The exit code, unless the run ended with a fault. -/
def code? : ProgramEnd → Option Nat
  | .code n => some n
  | .misused .. | .refused _ => some usage
  | .failed _ => none

/-- What the end of a run adds to the error stream. -/
def complaint : ProgramEnd → String
  | .code _ => ""
  | .misused usage program reason => usage ++ program ++ ": error: " ++ reason ++ "\n"
  | .refused e => "error: " ++ e.message ++ "\n"
  | .failed _ => ""

end ProgramEnd

/-- All that goes to the error stream. -/
def Outcome.errorText (o : Outcome) : String := o.log ++ o.ending.complaint

end FlipSat.CommandLine
