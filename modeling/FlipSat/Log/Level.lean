import FlipSat.Text.Numeral
import FlipSat.Text.Upper

/-
  FlipSat: how much a log message matters. Levels are integers; some of them have names.
-/
namespace FlipSat.Level

def debug : Int := 10

def info : Int := 20

def warning : Int := 30

/-- The names of levels. Where a level has two names, messages show the first. -/
def names : List (String × Int) := [
  ("CRITICAL", 50), ("FATAL", 50), ("ERROR", 40), ("WARNING", warning), ("WARN", warning),
  ("INFO", info), ("DEBUG", debug), ("NOTSET", 0)]

/-- The level with a name; small and capital letters are alike. -/
def ofName? (name : String) : Option Int := names.lookup (Text.upper name)

/-- How a level is written in a message. -/
def text (n : Int) : String :=
  match names.find? (·.2 == n) with
  | some (name, _) => name
  | none => "Level " ++ Text.showInt n

end FlipSat.Level
