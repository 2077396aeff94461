import FlipSat.CommandLine.Options

/-
  FlipSat: the commands of the program with their options, and what a command line asks for.
-/
namespace FlipSat.CommandLine

/-! ## Texts -/

/-- Lines of a text. -/
def unlines (ls : List String) : String := String.join (ls.map (· ++ "\n"))

def helpOption : OptionForm := ⟨["-h", "--help"], .help⟩

def programUsage : String := "usage: gsatwalk [-h] \x7bsolve,check\x7d ...\n"

/-- The program itself: all that it does by itself is to tell about its commands. -/
def programForm : CommandForm where
  program := "gsatwalk"
  usage := programUsage
  help := programUsage ++ unlines [
    "",
    "WalkSAT-style local search over named propositions",
    "",
    "positional arguments:",
    "  \x7bsolve,check\x7d",
    "    solve        search for a satisfying assignment",
    "    check        parse a clause file and print the clauses as understood",
    "",
    "options:",
    "  -h, --help     show this help message and exit"]
  options := [helpOption]

def solveUsage : String := unlines [
  "usage: gsatwalk solve [-h] [--dimacs] [--config CONFIG] [--noise NOISE]",
  "                      [--max-flips MAX_FLIPS] [--max-tries MAX_TRIES]",
  "                      [--timeout TIMEOUT] [--seed SEED] [--set KEY=VALUE]",
  "                      [--trace-dir TRACE_DIR] [--json] [--debug]",
  "                      file"]

/-- The command that searches for a solution. -/
def solveForm : CommandForm where
  program := "gsatwalk solve"
  usage := solveUsage
  help := solveUsage ++ unlines [
    "",
    "positional arguments:",
    "  file                  clause file, one clause per line",
    "",
    "options:",
    "  -h, --help            show this help message and exit",
    "  --dimacs              input is DIMACS CNF",
    "  --config CONFIG       YAML configuration file",
    "  --noise NOISE         random-walk percentage, 0-100",
    "  --max-flips MAX_FLIPS",
    "  --max-tries MAX_TRIES",
    "  --timeout TIMEOUT     seconds",
    "  --seed SEED",
    "  --set KEY=VALUE       override a configuration value, e.g.",
    "                        solver.anneal_flips=5000",
    "  --trace-dir TRACE_DIR",
    "                        write a structured search trace",
    "  --json                print the result as JSON",
    "  --debug"]
  options := [
    helpOption,
    ⟨["--dimacs"], .flag⟩,
    ⟨["--config"], .valued .text⟩,
    ⟨["--noise"], .valued .int⟩,
    ⟨["--max-flips"], .valued .int⟩,
    ⟨["--max-tries"], .valued .int⟩,
    ⟨["--timeout"], .valued .real⟩,
    ⟨["--seed"], .valued .int⟩,
    ⟨["--set"], .valued .text⟩,
    ⟨["--trace-dir"], .valued .text⟩,
    ⟨["--json"], .flag⟩,
    ⟨["--debug"], .flag⟩]

def checkUsage : String := "usage: gsatwalk check [-h] [--dimacs] file\n"

/-- The command that shows a formula as it is understood. -/
def checkForm : CommandForm where
  program := "gsatwalk check"
  usage := checkUsage
  help := checkUsage ++ unlines [
    "",
    "positional arguments:",
    "  file",
    "",
    "options:",
    "  -h, --help  show this help message and exit",
    "  --dimacs"]
  options := [helpOption, ⟨["--dimacs"], .flag⟩]

/-! ## Requests -/

/-- What the search command is asked for. -/
structure SolveArguments where
  file : String
  dimacs : Bool := false
  config : Option String := none
  noise : Option Int := none
  maxFlips : Option Int := none
  maxTries : Option Int := none
  timeout : Option Binary64 := none
  seed : Option Int := none
  sets : List String := []
  traceDir : Option String := none
  json : Bool := false
  debug : Bool := false
deriving DecidableEq, Repr

/-- What the showing command is asked for. -/
structure CheckArguments where
  file : String
  dimacs : Bool := false
deriving DecidableEq, Repr

/-- What the program is asked for. -/
inductive Request where
  | overview
  | solve (args : SolveArguments)
  | check (args : CheckArguments)
deriving DecidableEq, Repr

namespace Parsed

/-- All that was given for the option with a name, in order. -/
def given (p : Parsed) (name : String) : List Given :=
  (p.options.filter fun o => o.1.names.contains name).map (·.2)

/-- Is the option with a name there? -/
def has (p : Parsed) (name : String) : Bool := !(p.given name).isEmpty

/-- The texts given for an option. -/
def texts (p : Parsed) (name : String) : List String :=
  (p.given name).filterMap fun g => match g with
    | .text s => some s
    | _ => none

/-- The last text given for an option. -/
def text? (p : Parsed) (name : String) : Option String := (p.texts name).getLast?

/-- The last integer given for an option. -/
def int? (p : Parsed) (name : String) : Option Int :=
  ((p.given name).filterMap fun g => match g with
    | .int n => some n
    | _ => none).getLast?

/-- The last number given for an option. -/
def real? (p : Parsed) (name : String) : Option Binary64 :=
  ((p.given name).filterMap fun g => match g with
    | .real x => some x
    | _ => none).getLast?

end Parsed

/-- The arguments of a command that works on a file, and the file. -/
def parseWithFile (f : CommandForm) (args : List String) : Except Stop (Parsed × String) := do
  let p ← parse f args
  match p.operand with
  | some file => pure (p, file)
  | none => throw (f.refuse "the following arguments are required: file")

def SolveArguments.ofParsed (p : Parsed) (file : String) : SolveArguments where
  file := file
  dimacs := p.has "--dimacs"
  config := p.text? "--config"
  noise := p.int? "--noise"
  maxFlips := p.int? "--max-flips"
  maxTries := p.int? "--max-tries"
  timeout := p.real? "--timeout"
  seed := p.int? "--seed"
  sets := p.texts "--set"
  traceDir := p.text? "--trace-dir"
  json := p.has "--json"
  debug := p.has "--debug"

/-- Arguments that belong nowhere are refused by the program itself, after all else. -/
def refuseExtras (extras : List String) : Except Stop Unit :=
  if extras.isEmpty then .ok ()
  else .error (programForm.refuse ("unrecognized arguments: " ++ " ".intercalate extras))

/-- The request of a command with its arguments; `before` are arguments in front of the command. -/
def Request.ofCommand (before : List String) (command : String) (args : List String) :
    Except Stop Request :=
  match command with
  | "solve" => do
    let (p, file) ← parseWithFile solveForm args
    refuseExtras (before ++ p.extras)
    pure (.solve (.ofParsed p file))
  | "check" => do
    let (p, file) ← parseWithFile checkForm args
    refuseExtras (before ++ p.extras)
    pure (.check { file := file, dimacs := p.has "--dimacs" })
  | _ =>
    .error (programForm.refuse ("argument command: invalid choice: " ++ Text.quoted command ++
      " (choose from 'solve', 'check')"))

/-- The request in arguments, after the arguments `before` that belong nowhere. The first operand,
    or a divider in front of one, is the command, and all that follows belongs to the command. -/
def Request.ofMarked (before : List String) : List (String × Mark) → Except Stop Request
  | [] => do
    refuseExtras before
    pure .overview
  | (arg, .operand) :: rest => Request.ofCommand before arg (rest.map (·.1))
  | (arg, .divider) :: rest =>
    if rest.isEmpty then do
      refuseExtras (before ++ [arg])
      pure .overview
    else Request.ofCommand before arg (rest.map (·.1))
  | (arg, .unknown) :: rest => Request.ofMarked (before ++ [arg]) rest
  | (_, .option o attached) :: rest => do
    let p ← match attached with
      | none => withoutValue programForm o {}
      | some a => withAttached programForm o a {}
    Request.ofMarked (before ++ p.extras) rest

/-- What a command line asks for. -/
def Request.ofArguments (args : List String) : Except Stop Request := do
  let marked ← markAll programForm args
  Request.ofMarked [] marked

end FlipSat.CommandLine
