import FlipSat.CommandLine.Check
import FlipSat.Json.Printer
import FlipSat.Log.Basic
import FlipSat.Search.Solver
import FlipSat.Settings.File
import FlipSat.Trace.Basic

/-
  FlipSat: the command that searches for a solution of the formula in a file. Its settings come
  from a file, then from overrides, then from options. The result is printed as text or as JSON.
-/
namespace FlipSat.CommandLine

variable {γ : Type} [SettingsLibrary γ]

/-! ## Settings -/

/-- Applies an override `KEY=VALUE`; the value is written in YAML. -/
def applyOverride (s : Settings γ) (item : String) : Except Fault (Settings γ) :=
  match atSign item.toList with
  | (_, none) | ([], _) => .error (.config (.noAssignment item))
  | (key, some raw) => do
    let key := Text.trimmed (String.ofList key)
    let v ← (SettingsLibrary.safeLoad (γ := γ) (String.ofList raw)).mapError
      (Settings.report [.yaml] (.badOverride key))
    Settings.required (s.set key v)

/-- Applies overrides in order. -/
def applyOverrides (s : Settings γ) : List String → Except Fault (Settings γ)
  | [] => .ok s
  | item :: items => do
    let s ← applyOverride s item
    applyOverrides s items

/-- Sets the keys that have a value, in order. -/
def applyValues (s : Settings γ) : List (String × Option Value) → Except Fault (Settings γ)
  | [] => .ok s
  | (_, none) :: rest => applyValues s rest
  | (key, some v) :: rest => do
    let s ← Settings.required (s.set key v)
    applyValues s rest

namespace SolveArguments

/-- The settings that options stand for. -/
def values (args : SolveArguments) : List (String × Option Value) := [
  ("solver.noise_level", args.noise.map .int),
  ("solver.max_flips", args.maxFlips.map .int),
  ("solver.max_tries", args.maxTries.map .int),
  ("solver.timeout", args.timeout.map .real),
  ("problem.seed", args.seed.map .int),
  ("logging.trace_dir", args.traceDir.map .text),
  ("problem.format", if args.dimacs then some (.text "dimacs") else none)]

/-- The settings of a run. -/
def settings (args : SolveArguments) (files : FileTree) : Except Fault (Settings γ) := do
  let s ← match args.config with
    | none | some "" => Settings.new
    | some path => Settings.load files path
  let s ← applyOverrides s args.sets
  applyValues s args.values

end SolveArguments

/-! ## The run -/

/-- The log that settings ask for. -/
def openLog (s : Settings γ) (debug : Bool) (files : FileTree) : FileTree × Except Fault Log :=
  let asked : Except Fault (Value × Value × Value) := do
    let level ← if debug then pure (.text "DEBUG") else s.get "logging.level" (.text "INFO")
    let format ← s.get "logging.format" .null
    let file ← s.get "logging.file" .null
    pure (level, format, file)
  match asked with
  | .error e => (files, .error e)
  | .ok (level, format, file) => Log.configure files level format file

/-- The trace that settings ask for, if they do; `now` is the time on the wall. -/
def openTrace (s : Settings γ) (files : FileTree) (now : String) :
    Except Fault (Option Trace × FileTree) := do
  let asked ← s.get "logging.trace_dir" .null
  if !asked.truth then pure (none, files)
  else
    let format ← s.get "logging.trace_format" (.text "json")
    match asked with
    | .text dir | .path dir =>
      let (trace, files) ← Trace.create files dir "gsatwalk" format.display now
      pure (some trace, files)
    | _ => throw (.mistyped "the path of a directory is a text")

/-- Writes the records of a trace and closes it. The clock on the wall was read once before, and is
    read again for each record and at the end. -/
def writeTrace (trace : Option Trace) (records : List TraceRecord) (files : FileTree)
    (wall : WallClock) : FileTree × Option Fault :=
  match trace with
  | none => (files, none)
  | some t =>
    let (t, files, fault) := t.logAll files (records.mapIdx fun i r => (r, wall.seconds (i + 1)))
    let (_, files, closing) := t.finalize files (wall.date (records.length + 1))
    (files, fault.or closing)

/-- What is printed of a result. -/
def printed (json : Bool) (r : SearchResult) : String :=
  if json then Json.pretty r.toValue ++ "\n"
  else
    let values := if r.isSat then r.assignment.getD [] else []
    unlines (r.summary :: values.map fun e => e.1 ++ " = " ++ (if e.2 then "true" else "false"))

/-- Is a fault of a search answered by a message and an exit code? -/
def isSearchRefusal (e : Fault) : Bool :=
  isRefusal e || (match e with | .config _ => true | _ => false)

/-- The search for a solution of the formula in a file. -/
def search (args : SolveArguments) (s : Settings γ) (traced : Bool) (files : FileTree)
    (env : Environment) : List SearchEvent × Except Fault SearchResult :=
  let solver : Except Fault (Solver Seeded) := do
    let format ← s.get "problem.format" .null
    let f ← loadFormula files args.file (format.same (.text "dimacs"))
    let p ← Parameters.ofSettings s
    let seed ← s.get "problem.seed" .null
    let seed := if seed.isNull then .int env.entropy else seed
    let source : Watched Seeded := { source := Seeded.ofSeed seed }
    pure { Solver.ofFormula f p none traced source env.clock with traceback := env.traceback }
  match solver with
  | .error e => ([], .error e)
  | .ok solver =>
    let answer := solver.solve .null
    (answer.events, answer.result)

/-- Runs the command with its settings, its log and its trace. -/
def SolveArguments.runWith (args : SolveArguments) (s : Settings γ) (log : Log)
    (trace : Option Trace) (files : FileTree) (env : Environment) : Outcome :=
  let (events, result) := search args s trace.isSome files env
  let (text, files) := log.write files (SearchEvent.logs events)
  let (files, fault) := writeTrace trace (SearchEvent.traces events) files env.wall
  match fault, result with
  | some e, _ => { files := files, log := text, ending := .failed e }
  | none, .error e => { files := files, log := text, ending := .ofFault isSearchRefusal e }
  | none, .ok r =>
    { files := files
      log := text
      output := printed args.json r
      ending := .code (if r.isSat then ProgramEnd.solved else ProgramEnd.unsolved) }

/-- Runs the command; its settings are kept in documents of type `γ`. -/
def SolveArguments.run (γ : Type) [SettingsLibrary γ] (args : SolveArguments) (env : Environment) :
    Outcome :=
  let refusal (e : Fault) : Bool := match e with | .config _ => true | _ => false
  match (args.settings env.files : Except Fault (Settings γ)) with
  | .error e => { files := env.files, ending := .ofFault refusal e }
  | .ok s =>
    match openLog s args.debug env.files with
    | (files, .error e) => { files := files, ending := .failed e }
    | (files, .ok log) =>
      match openTrace s files (env.wall.date 0) with
      | .error e => { files := files, ending := .failed e }
      | .ok (trace, files) => args.runWith s log trace files env

end FlipSat.CommandLine
