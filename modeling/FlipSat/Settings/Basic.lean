import FlipSat.Fault
import FlipSat.Log.Level
import FlipSat.Settings.Library

/-
  FlipSat: the settings of a run, in sections. They start from defaults and change by setting
  single keys or by merging tables. A change is made on a document of its own, which takes the place
  of the one that holds only if it is valid.
-/
namespace FlipSat

/-- The settings: the documents that were made so far, by their numbers, and the number of the one
    that holds. -/
structure Settings (γ : Type) where
  document : Nat → γ
  made : Nat
  current : Nat
  current_lt : current < made

namespace Settings

variable {γ : Type}

/-- The form of log lines when no other is set. -/
def defaultLogFormat : String := "%(asctime)s - %(name)s - %(levelname)s - %(message)s"

/-- What holds unless it is changed. -/
def standard : Value := .table [
  (.text "solver", .table [
    (.text "name", .text "walksat"),
    (.text "noise_level", .int 10),
    (.text "noise_start", .null),
    (.text "anneal_flips", .int 0),
    (.text "max_flips", .int 100000),
    (.text "max_tries", .int 1),
    (.text "timeout", .real (.ofScaled false 30 0)),
    (.text "progress_interval", .int 1000),
    (.text "check_consistency", .bool false)]),
  (.text "problem", .table [
    (.text "format", .text "lines"),
    (.text "seed", .null)]),
  (.text "logging", .table [
    (.text "level", .text "INFO"),
    (.text "file", .null),
    (.text "format", .text defaultLogFormat),
    (.text "trace_dir", .null),
    (.text "trace_format", .text "json")])]

/-! ## Documents -/

/-- The document that holds. -/
def config (s : Settings γ) : γ := s.document s.current

/-- Makes a document. It gets the next number. -/
def make (s : Settings γ) (d : γ) : Settings γ where
  document := fun n => if n = s.made then d else s.document n
  made := s.made + 1
  current := s.current
  current_lt := Nat.lt_succ_of_lt s.current_lt

/-- The number of the document that was made last. -/
def newest (s : Settings γ) : Nat := s.made - 1

/-- Changes the document with a number. -/
def write (s : Settings γ) (n : Nat) (d : γ) : Settings γ :=
  { s with document := fun m => if m = n then d else s.document m }

variable [SettingsLibrary γ]

/-- A fault of the library: one of some families is reported as a fault of the settings, every other
    one as it is. -/
def report (families : List FaultFamily) (asConfig : String → ConfigFault) (r : Raised) : Fault :=
  if r.isAmong families then .config (asConfig r.message) else .raised r

/-- The value at a key of a document. There is a default for a value that is missing or null, or
    cannot be found. -/
def read (d : γ) (key : String) (default : Value) : Except Fault Value :=
  match SettingsLibrary.select d key with
  | .ok .null => .ok default
  | .ok v => .ok v
  | .error r => if r.isAmong [.settings, .key] then .ok default else .error (.raised r)

/-- The value of a key, with a default for a value that is missing or null. -/
def get (s : Settings γ) (key : String) (default : Value) : Except Fault Value :=
  read s.config key default

/-- What holds, with every reference replaced by what it stands for. -/
def toValue (s : Settings γ) : Except Fault Value :=
  (SettingsLibrary.toContainer s.config true).mapError .raised

/-! ## Validity -/

/-- A whole number from 0 to 100, or nothing. -/
def isPercentage : Value → Bool
  | .null => true
  | .int n => 0 ≤ n && n ≤ 100
  | _ => false

/-- A whole number above 0. -/
def isPositive : Value → Bool
  | .int n => 0 < n
  | _ => false

/-- A whole number from 0 on. -/
def isNonNegative : Value → Bool
  | .int n => 0 ≤ n
  | _ => false

/-- A number that is not zero or less, or nothing. -/
def isTimeout : Value → Bool
  | .null => true
  | .int n => 0 < n
  | .real x => !x.le (.zero false)
  | _ => false

/-- The name of a level, or any integer. -/
def isLevel : Value → Bool
  | .int _ => true
  | .text name => (Level.ofName? name).isSome
  | _ => false

/-- One of the two forms of a trace. -/
def isTraceFormat : Value → Bool
  | .text name => name == "json" || name == "csv"
  | _ => false

/-- Checks the value at a key; a missing one counts as null. -/
def check (d : γ) (key : String) (accepts : Value → Bool) (refusal : Value → ConfigFault) :
    Except Fault Unit := do
  let v ← read d key .null
  if accepts v then .ok () else .error (.ofConfig (refusal v))

/-- Checks the settings that a search depends on, and reports the first that is invalid. -/
def validate (d : γ) : Except Fault Unit := do
  check d "solver.noise_level" isPercentage (.notPercentage "solver.noise_level")
  check d "solver.noise_start" isPercentage (.notPercentage "solver.noise_start")
  check d "solver.max_flips" isPositive (.notPositive "solver.max_flips")
  check d "solver.max_tries" isPositive (.notPositive "solver.max_tries")
  check d "solver.timeout" isTimeout .badTimeout
  check d "solver.anneal_flips" isNonNegative (.negative "solver.anneal_flips")
  check d "solver.progress_interval" isNonNegative (.negative "solver.progress_interval")
  check d "logging.level" isLevel .badLevel
  check d "logging.trace_format" isTraceFormat .badTraceFormat

/-! ## Changes -/

/-- The document that was made last takes the place of the one that holds, if it is valid. -/
def commit (s : Settings γ) : Settings γ × Option Fault :=
  match validate (s.document s.newest) with
  | .ok () =>
    ({ s with
        current := s.newest
        current_lt := Nat.sub_one_lt (Nat.ne_zero_of_lt s.current_lt) }, none)
  | .error e => (s, some e)

/-- Puts a value at a dotted key of a copy. -/
def set (s : Settings γ) (key : String) (v : Value) : Settings γ × Option Fault :=
  let s := s.make s.config
  let (d, raised) := SettingsLibrary.update (s.document s.newest) key v
  let s := s.write s.newest d
  match raised with
  | some r => (s, some (report [.settings] (.cannotSet key) r))
  | none => s.commit

/-- Merges a value into the settings; its keys are taken as they are, dots and all. -/
def update (s : Settings γ) (v : Value) : Settings γ × Option Fault :=
  match SettingsLibrary.mergeValue s.config v with
  | .error r => (s, some (report [.settings] .badUpdate r))
  | .ok d => (s.make d).commit

/-- Settings that hold the defaults. -/
def new : Except Fault (Settings γ) :=
  match SettingsLibrary.create standard with
  | .error r => .error (.raised r)
  | .ok d => .ok { document := fun _ => d, made := 1, current := 0, current_lt := Nat.one_pos }

/-- The settings after a change that has to be made. -/
def required (r : Settings γ × Option Fault) : Except Fault (Settings γ) :=
  match r with
  | (s, none) => .ok s
  | (_, some e) => .error e

end Settings

end FlipSat
