import FlipSat.Problem.Basic
import FlipSat.Proofs.Except
import FlipSat.Search.Parameters

/-
  FlipSat: parameters that can bound and direct a search.
  The check of settings reads the keys in the way in which they are read for a search, defaults
  apart, so it sees what a search gets (`read_default`). `valid_ofSettings`: the parameters of
  settings that pass their check are valid.
-/
namespace FlipSat

variable {γ : Type} [SettingsLibrary γ]

namespace Settings

variable {d : γ} {key : String} {accepts : Value → Bool} {refusal : Value → ConfigFault}
  {v default : Value}

/-! ## Checks -/

/-- What is read at a key of a document is accepted; a missing value counts as null. -/
def Accepts (d : γ) (key : String) (accepts : Value → Bool) : Prop :=
  ∃ v, read d key .null = .ok v ∧ accepts v = true

theorem check_eq_ok_iff : check d key accepts refusal = .ok () ↔ Accepts d key accepts := by
  unfold check Accepts
  rw [bind_eq_ok_iff]
  refine exists_congr fun v => and_congr_right fun _ => ?_
  cases accepts v <;> simp

/-- A document is valid when it passes every check. -/
theorem validate_eq_ok_iff : validate d = .ok () ↔
    Accepts d "solver.noise_level" isPercentage ∧ Accepts d "solver.noise_start" isPercentage ∧
      Accepts d "solver.max_flips" isPositive ∧ Accepts d "solver.max_tries" isPositive ∧
      Accepts d "solver.timeout" isTimeout ∧ Accepts d "solver.anneal_flips" isNonNegative ∧
      Accepts d "solver.progress_interval" isNonNegative ∧ Accepts d "logging.level" isLevel ∧
      Accepts d "logging.trace_format" isTraceFormat := by
  simp only [validate, check_bind_eq_ok_iff, check_eq_ok_iff]

/-- A default takes the place of null and changes nothing else. -/
theorem read_default (h : read d key .null = .ok v) (default : Value) :
    read d key default = .ok (if v.isNull then default else v) := by
  unfold read at h ⊢
  cases hselect : SettingsLibrary.select d key with
  | ok w =>
    rw [hselect] at h
    cases w <;> cases h <;> rfl
  | error r =>
    rw [hselect] at h
    dsimp only at h ⊢
    split at h
    · next hr =>
      cases h
      rw [if_pos hr]
      rfl
    · cases h

/-- An accepted value is read with a default if it is null. -/
theorem Accepts.read (h : Accepts d key accepts) (default : Value) :
    ∃ v, accepts v = true ∧
      Settings.read d key default = .ok (if v.isNull then default else v) := by
  obtain ⟨v, hv, haccepts⟩ := h
  exact ⟨v, haccepts, read_default hv default⟩

/-! ## Values that are accepted -/

theorem isPercentage_iff : isPercentage v = true ↔ v = .null ∨ ∃ n : Percent, v = .int n.val := by
  cases v with
  | int n =>
    simp only [isPercentage, Bool.and_eq_true, decide_eq_true_eq, reduceCtorEq, false_or,
      Value.int.injEq]
    constructor
    · rintro ⟨hlow, hhigh⟩
      exact ⟨⟨n.toNat, by omega⟩, (Int.toNat_of_nonneg hlow).symm⟩
    · rintro ⟨p, rfl⟩
      exact ⟨Int.natCast_nonneg _, by exact_mod_cast p.val_le⟩
  | _ => simp [isPercentage]

theorem isPositive_iff : isPositive v = true ↔ ∃ n : Nat, 0 < n ∧ v = .int n := by
  cases v with
  | int n =>
    simp only [isPositive, decide_eq_true_eq, Value.int.injEq]
    constructor
    · intro hn
      exact ⟨n.toNat, by omega, by omega⟩
    · rintro ⟨m, hm, rfl⟩
      exact_mod_cast hm
  | _ => simp [isPositive]

theorem isNonNegative_iff : isNonNegative v = true ↔ ∃ n : Nat, v = .int n := by
  cases v with
  | int n =>
    simp only [isNonNegative, decide_eq_true_eq, Value.int.injEq]
    constructor
    · exact fun hn => ⟨n.toNat, by omega⟩
    · rintro ⟨m, rfl⟩
      exact Int.natCast_nonneg m
  | _ => simp [isNonNegative]

theorem isTimeout_iff : isTimeout v = true ↔ v = .null ∨ (∃ n : Int, 0 < n ∧ v = .int n) ∨
    ∃ x, x.le (.zero false) = false ∧ v = .real x := by
  cases v <;> simp [isTimeout]

end Settings

namespace Parameters

/-- Noises are probabilities, counts are integers in their bounds, and a timeout is a number that is
    not zero or less. -/
structure Valid (p : Parameters) : Prop where
  noiseLevel : ∃ n : Percent, p.noiseLevel = .int n.val
  noiseStart : p.noiseStart = .null ∨ ∃ n : Percent, p.noiseStart = .int n.val
  annealFlips : ∃ n : Nat, p.annealFlips = .int n
  maxFlips : ∃ n : Nat, 0 < n ∧ p.maxFlips = .int n
  maxTries : ∃ n : Nat, 0 < n ∧ p.maxTries = .int n
  timeout : p.timeout = .null ∨ (∃ n : Int, 0 < n ∧ p.timeout = .int n) ∨
    ∃ x, x.le (.zero false) = false ∧ p.timeout = .real x
  progressInterval : ∃ n : Nat, p.progressInterval = .int n

theorem valid_default : Valid {} where
  noiseLevel := ⟨.default, rfl⟩
  noiseStart := .inl rfl
  annealFlips := ⟨0, rfl⟩
  maxFlips := ⟨100000, by decide, rfl⟩
  maxTries := ⟨1, by decide, rfl⟩
  timeout := .inl rfl
  progressInterval := ⟨1000, rfl⟩

variable {s : Settings γ} {p : Parameters}

/-- Settings have parameters when every key can be read. -/
theorem ofSettings_eq_ok_iff : ofSettings s = .ok p ↔
    s.get "solver.noise_level" (.int 10) = .ok p.noiseLevel ∧
      s.get "solver.noise_start" .null = .ok p.noiseStart ∧
      s.get "solver.anneal_flips" (.int 0) = .ok p.annealFlips ∧
      s.get "solver.max_flips" (.int 100000) = .ok p.maxFlips ∧
      s.get "solver.max_tries" (.int 1) = .ok p.maxTries ∧
      s.get "solver.timeout" .null = .ok p.timeout ∧
      s.get "solver.progress_interval" (.int 1000) = .ok p.progressInterval ∧
      s.get "solver.check_consistency" (.bool false) = .ok p.checkConsistency := by
  unfold ofSettings
  dsimp only
  simp only [bind_eq_ok_iff]
  constructor
  · rintro ⟨_, h1, _, h2, _, h3, _, h4, _, h5, _, h6, _, h7, _, h8, h⟩
    cases h
    exact ⟨h1, h2, h3, h4, h5, h6, h7, h8⟩
  · rintro ⟨h1, h2, h3, h4, h5, h6, h7, h8⟩
    exact ⟨_, h1, _, h2, _, h3, _, h4, _, h5, _, h6, _, h7, _, h8, rfl⟩

/-- The parameters of settings that pass their check are valid. -/
theorem valid_ofSettings (h : Settings.validate s.config = .ok ()) (hp : ofSettings s = .ok p) :
    p.Valid := by
  obtain ⟨hlevel, hstart, hflips, htries, htimeout, hanneal, hinterval, -, -⟩ :=
    Settings.validate_eq_ok_iff.mp h
  obtain ⟨rlevel, rstart, ranneal, rflips, rtries, rtimeout, rinterval, -⟩ :=
    ofSettings_eq_ok_iff.mp hp
  have hread : ∀ {key accepts default v}, Settings.Accepts s.config key accepts →
      s.get key default = .ok v → ∃ w, accepts w = true ∧ v = if w.isNull then default else w := by
    intro key accepts default v haccepts hv
    obtain ⟨w, hw, hdefault⟩ := haccepts.read default
    exact ⟨w, hw, Except.ok.inj (hv.symm.trans hdefault)⟩
  refine ⟨?_, ?_, ?_, ?_, ?_, ?_, ?_⟩
  · obtain ⟨w, hw, hv⟩ := hread hlevel rlevel
    rcases Settings.isPercentage_iff.mp hw with rfl | ⟨n, rfl⟩
    · exact ⟨.default, hv⟩
    · exact ⟨n, hv⟩
  · obtain ⟨w, hw, hv⟩ := hread hstart rstart
    rcases Settings.isPercentage_iff.mp hw with rfl | ⟨n, rfl⟩
    · exact .inl hv
    · exact .inr ⟨n, hv⟩
  · obtain ⟨w, hw, hv⟩ := hread hanneal ranneal
    obtain ⟨n, rfl⟩ := Settings.isNonNegative_iff.mp hw
    exact ⟨n, hv⟩
  · obtain ⟨w, hw, hv⟩ := hread hflips rflips
    obtain ⟨n, hn, rfl⟩ := Settings.isPositive_iff.mp hw
    exact ⟨n, hn, hv⟩
  · obtain ⟨w, hw, hv⟩ := hread htries rtries
    obtain ⟨n, hn, rfl⟩ := Settings.isPositive_iff.mp hw
    exact ⟨n, hn, hv⟩
  · obtain ⟨w, hw, hv⟩ := hread htimeout rtimeout
    rcases Settings.isTimeout_iff.mp hw with rfl | ⟨n, hn, rfl⟩ | ⟨x, hx, rfl⟩
    · exact .inl hv
    · exact .inr (.inl ⟨n, hn, hv⟩)
    · exact .inr (.inr ⟨x, hx, hv⟩)
  · obtain ⟨w, hw, hv⟩ := hread hinterval rinterval
    obtain ⟨n, rfl⟩ := Settings.isNonNegative_iff.mp hw
    exact ⟨n, hv⟩

end Parameters

end FlipSat
