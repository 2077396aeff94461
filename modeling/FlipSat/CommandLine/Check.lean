import FlipSat.CommandLine.Outcome
import FlipSat.Formula.File
import FlipSat.Problem.Basic

/-
  FlipSat: the command that shows a formula as it is understood, one clause a line, and counts its
  clauses and propositions.
-/
namespace FlipSat.CommandLine

/-- Is a fault answered by a message and an exit code? -/
def isRefusal : Fault → Bool
  | .parse _ | .emptyClause _ | .noFormulaFile _ | .noDimacsFile _ | .file (.notFound _) => true
  | _ => false

/-- A run that a fault has ended. -/
def ProgramEnd.ofFault (refusal : Fault → Bool) (e : Fault) : ProgramEnd :=
  if refusal e then .refused e else .failed e

/-- The formula in a file, in one of the two formats. -/
def loadFormula (files : FileTree) (path : String) (dimacs : Bool) : Except Fault Formula :=
  if dimacs then (Dimacs.load files path).map (·.formula) else Formula.load files path

/-- What is shown of an instance. -/
def overviewOf (inst : Instance) : String :=
  unlines (inst.clauses.toList.map (·.text)) ++ Text.showNat inst.clauses.size ++ " clauses, " ++
    Text.showNat inst.vocabulary.size ++ " propositions\n"

def CheckArguments.run (args : CheckArguments) (env : Environment) : Outcome :=
  match (loadFormula env.files args.file args.dimacs).bind Instance.ofFormula with
  | .error e => { files := env.files, ending := .ofFault isRefusal e }
  | .ok inst =>
    { files := env.files, output := overviewOf inst, ending := .code ProgramEnd.solved }

end FlipSat.CommandLine
