import FlipSat.FileTree
import FlipSat.Formula.Basic
import FlipSat.Settings.Fault

/-
  FlipSat: everything that can stop an operation, in one type. Each cause has a kind, which groups
  causes that callers treat alike, and a message.
-/
namespace FlipSat

/-- How the kept state of a clause disagrees with a recount. -/
inductive Inconsistency where
  | count (stored actual : Int)
  | surplusMember
  | missingMember
deriving DecidableEq, Repr

/-- A search that ended without a solution: how long it took, and the best that it found. -/
structure Unsolved where
  message : String
  seconds : Option Binary64
  satisfied : Option Int
  best : Option Valuation
deriving DecidableEq, Repr

/-- Why an operation stops. -/
inductive Fault where
  | parse (fault : ParseFault)
  | file (fault : FileFault)
  | noFormulaFile (path : String)
  | noDimacsFile (path : String)
  | config (fault : ConfigFault)
  | emptyClause (index : Int)
  | inconsistent (clause : Nat) (kind : Inconsistency)
  | unsolved (report : Unsolved)
  | unknownProposition (name : String)
  | noValue (name : String)
  | noSuchName (name : String)
  | notMember (index : Int)
  | emptyChoice
  | noSuchPlace
  | valueCount (expected got : Nat)
  | traceFormat (format : String)
  | unknownLevel (name : String)
  | badLogFormat
  | badStatus
  | badNumber
  | tooManyDigits
  | zeroDivisor
  | noSource
  | noSuchSort (name : String)
  | mistyped (text : String)
  | tooLarge (text : String)
  | raised (fault : Raised)
deriving Repr

/-- A message with what the search spent and reached, as far as it is known. -/
def budgetMessage (message : String) (seconds : Option String) (satisfied : Option Int) : String :=
  detailed message
    ((seconds.map fun s => "time_spent=" ++ s ++ "s").toList ++
      (satisfied.map fun n => "satisfied_clauses=" ++ Text.showInt n).toList)

/-- A message with the clause that it is about. -/
def clauseMessage (message : String) (clause : Option String) : String :=
  match clause with
  | some c => message ++ ": " ++ c
  | none => message

def Inconsistency.message (clause : Nat) : Inconsistency → String
  | .count stored actual =>
    "True literal count incorrect for clause " ++ Text.showNat clause ++ ": stored " ++
      Text.showInt stored ++ ", actual " ++ Text.showInt actual
  | .surplusMember =>
    "Clause " ++ Text.showNat clause ++ " appears in unsatisfied clauses but is satisfied"
  | .missingMember =>
    "Clause " ++ Text.showNat clause ++ " is unsatisfied but missing from unsatisfied clauses"

/-- Is it the count or the membership that is wrong? -/
def Inconsistency.kind : Inconsistency → String
  | .count _ _ => "count"
  | _ => "membership"

namespace Fault

/-- The fault of settings, unless it is about a value that cannot be written. -/
def ofConfig (e : ConfigFault) : Fault :=
  if (e.value?.map Value.isWritable).getD true then .config e else .tooManyDigits

/-- The kind of a fault, as records of it name it. -/
def kind : Fault → String
  | .parse _ => "ParseError"
  | .file (.notFound _) | .noFormulaFile _ | .noDimacsFile _ => "FileNotFoundError"
  | .file (.isDirectory _) => "IsADirectoryError"
  | .file (.notDirectory _) => "NotADirectoryError"
  | .file (.alreadyExists _) => "FileExistsError"
  | .file (.nameTooLong _) => "OSError"
  | .config _ => "ConfigurationError"
  | .emptyClause _ => "InvalidClauseError"
  | .inconsistent _ _ => "ConsistencyError"
  | .unsolved _ => "SolverTimeoutError"
  | .unknownProposition _ | .noValue _ | .noSuchName _ | .notMember _ => "KeyError"
  | .emptyChoice | .noSuchPlace => "IndexError"
  | .valueCount _ _ | .traceFormat _ | .unknownLevel _ | .badLogFormat | .badStatus
  | .badNumber | .tooManyDigits | .file .holdsNul => "ValueError"
  | .noSource | .noSuchSort _ => "AttributeError"
  | .zeroDivisor => "ZeroDivisionError"
  | .mistyped _ => "TypeError"
  | .tooLarge _ => "OverflowError"
  | .raised r => r.kind

/-- What is wrong, in words. -/
def message : Fault → String
  | .parse e => e.message
  | .file e => e.message
  | .noFormulaFile path => "Clause file not found: " ++ path
  | .noDimacsFile path => "CNF file not found: " ++ path
  | .config e => e.message
  | .emptyClause index => clauseMessage "Clause has no literals" (some (Text.showInt index))
  | .inconsistent clause kind => kind.message clause
  | .unsolved r => budgetMessage r.message (r.seconds.map (·.fixed 2)) r.satisfied
  | .unknownProposition name => "Unknown proposition " ++ Text.quoted name
  | .noValue name => "No value given for proposition " ++ Text.quoted name
  | .noSuchName name => name
  | .notMember index => Text.showInt index
  | .emptyChoice => "Cannot choose from an empty sequence"
  | .noSuchPlace => "list index out of range"
  | .valueCount expected got =>
    "Expected " ++ Text.showNat expected ++ " values, got " ++ Text.showNat got
  | .traceFormat format => "Unsupported trace format: " ++ format
  | .unknownLevel name => "Unknown level: " ++ Text.quoted ("Level " ++ name)
  | .badLogFormat => "the format names no field of a record"
  | .badStatus => "not the name of a status"
  | .badNumber => "a number cannot be read"
  | .tooManyDigits =>
    "Exceeds the limit (" ++ Text.showNat Text.maxDigits ++ " digits) for integer string " ++
      "conversion; use sys.set_int_max_str_digits() to increase the limit"
  | .zeroDivisor => "division by zero"
  | .noSuchSort name => "there are no stored values of sort " ++ Text.quoted name
  | .noSource => "there is no random source to choose with"
  | .mistyped text => text
  | .tooLarge text => text
  | .raised r => r.message

end Fault

end FlipSat
