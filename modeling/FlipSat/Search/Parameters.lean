import FlipSat.Settings.Basic
import FlipSat.Value.Arithmetic

/-
  FlipSat: the parameters of a search. They come from the solver section of the settings, and
  single ones can be overridden. An override is checked as a change of the settings, but it is kept
  as it was given: a reference stays a text, and is refused where a number is needed of it.
-/
namespace FlipSat

/-- What bounds and directs a search. -/
structure Parameters where
  noiseLevel : Value := .int 10
  noiseStart : Value := .null
  annealFlips : Value := .int 0
  maxFlips : Value := .int 100000
  maxTries : Value := .int 1
  timeout : Value := .null
  progressInterval : Value := .int 1000
  checkConsistency : Value := .bool false
deriving Repr

namespace Parameters

/-- The parameters that settings hold; those that are missing or null have their defaults. -/
def ofSettings {γ : Type} [SettingsLibrary γ] (s : Settings γ) : Except Fault Parameters := do
  let standard : Parameters := {}
  let noiseLevel ← s.get "solver.noise_level" standard.noiseLevel
  let noiseStart ← s.get "solver.noise_start" standard.noiseStart
  let annealFlips ← s.get "solver.anneal_flips" standard.annealFlips
  let maxFlips ← s.get "solver.max_flips" standard.maxFlips
  let maxTries ← s.get "solver.max_tries" standard.maxTries
  let timeout ← s.get "solver.timeout" standard.timeout
  let progressInterval ← s.get "solver.progress_interval" standard.progressInterval
  let checkConsistency ← s.get "solver.check_consistency" standard.checkConsistency
  pure
    { noiseLevel, noiseStart, annealFlips, maxFlips, maxTries, timeout, progressInterval,
      checkConsistency }

/-- The parameters by name. -/
def entries (p : Parameters) : List (String × Value) := [
  ("noise_level", p.noiseLevel),
  ("noise_start", p.noiseStart),
  ("anneal_flips", p.annealFlips),
  ("max_flips", p.maxFlips),
  ("max_tries", p.maxTries),
  ("timeout", p.timeout),
  ("progress_interval", p.progressInterval),
  ("check_consistency", p.checkConsistency)]

/-- The parameters with one replaced; nothing if none has the name. -/
def put? (p : Parameters) (name : String) (v : Value) : Option Parameters :=
  match name with
  | "noise_level" => some { p with noiseLevel := v }
  | "noise_start" => some { p with noiseStart := v }
  | "anneal_flips" => some { p with annealFlips := v }
  | "max_flips" => some { p with maxFlips := v }
  | "max_tries" => some { p with maxTries := v }
  | "timeout" => some { p with timeout := v }
  | "progress_interval" => some { p with progressInterval := v }
  | "check_consistency" => some { p with checkConsistency := v }
  | _ => none

/-- The parameters with several replaced in order, up to the first name that none has. -/
def putAll (p : Parameters) : List (String × Value) → Except ConfigFault Parameters
  | [] => .ok p
  | (name, v) :: rest =>
    match p.put? name v with
    | some p => putAll p rest
    | none => .error (.unknownParameter name)

/-- Overrides as a value to merge into settings. -/
def asUpdate (overrides : List (String × Value)) : Value :=
  .table [(.text "solver", .table (overrides.map fun e => (.text e.1, e.2)))]

/-- The parameters of settings with overrides. The settings with the overrides in them have to be
    valid. -/
def override {γ : Type} [SettingsLibrary γ] (s : Settings γ) (overrides : List (String × Value)) :
    Except Fault Parameters := do
  let p ← ofSettings s
  let p ← (p.putAll overrides).mapError .config
  if !overrides.isEmpty then
    let candidate ← (SettingsLibrary.mergeValue s.config (asUpdate overrides)).mapError
      (Settings.report [.settings] .badParameters)
    Settings.validate candidate
  pure p

/-! ## Noise -/

/-- Does the noise change in the course of a try? -/
def anneals (p : Parameters) : Bool :=
  match p.noiseStart, p.annealFlips with
  | .null, _ => false
  | _, .int n => 0 < n
  | _, _ => false

/-- The noise before the flip with the given number. It moves on a line from `noise_start` to
    `noise_level` during the first `anneal_flips` flips; without a start or without such flips it
    is always `noise_level`. -/
def noiseAt (p : Parameters) (flips : Value) : Except Fault Value :=
  if p.noiseStart.isNull || !p.annealFlips.truth then .ok p.noiseLevel
  else do
    let progress ← (← flips.least p.annealFlips).quotient p.annealFlips
    let span ← p.noiseLevel.minus p.noiseStart
    let noise ← (← p.noiseStart.plus (← span.times (.real progress))).nearest
    pure (.int noise)

end Parameters

end FlipSat
