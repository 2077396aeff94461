import FlipSat.CommandLine.Solve
import FlipSat.Proofs.DocumentLaws
import FlipSat.Proofs.Parameters

/-
  FlipSat: settings over a run of changes.
  A change is made on a document of its own, which takes the place of the one that holds only if it
  is valid. Since a reference is looked through whenever a key is read, a change of one key can
  change what another key reads as; the check reads the keys in the same way, so it sees that as
  well.
    * `Keeps`: a change leaves every document that was there before as it was;
    * `apply_inv`: after a change a valid document holds, or the one that held before;
    * `readable_of_validate`: what is valid is read as a search and a log need it;
    * `applyAll_readable`: the settings after any run of changes;
    * `reached_of_settings`: the command has its settings from such a run.
-/
namespace FlipSat.Settings

/-! ## What stays of the documents -/

variable {γ : Type} {s t u : Settings γ} {d : γ}

/-- The documents that were made before are as they were. -/
structure Keeps (s t : Settings γ) : Prop where
  made : s.made ≤ t.made
  document : ∀ n, n < s.made → t.document n = s.document n

namespace Keeps

theorem refl : Keeps s s := ⟨Nat.le_refl _, fun _ _ => rfl⟩

theorem trans (h : Keeps s t) (h' : Keeps t u) : Keeps s u where
  made := Nat.le_trans h.made h'.made
  document := fun n hn =>
    (h'.document n (Nat.lt_of_lt_of_le hn h.made)).trans (h.document n hn)

/-- A document that held before holds the same. -/
theorem config (h : Keeps s t) (hcurrent : t.current = s.current) : t.config = s.config := by
  unfold Settings.config
  rw [hcurrent]
  exact h.document s.current s.current_lt

end Keeps

theorem keeps_make : Keeps s (s.make d) where
  made := Nat.le_succ _
  document := fun _ hn => if_neg (Nat.ne_of_lt hn)

/-- The document of a copy is not one of those that were there before. -/
theorem keeps_write : Keeps s ((s.make s.config).write (s.make s.config).newest d) where
  made := Nat.le_succ _
  document := fun n hn => by
    have hnewest : n ≠ (s.make s.config).newest := Nat.ne_of_lt hn
    exact (if_neg hnewest).trans (keeps_make.document n hn)

variable [SettingsLibrary γ]

/-! ## Runs of changes -/

/-- A change of settings: a value at a dotted key, a value merged in, or a file merged in. -/
inductive Change where
  | set (key : String) (v : Value)
  | update (v : Value)
  | load (files : FileTree) (path : String)

/-- Tries a change: the settings after it, and why it was refused if it was. -/
def apply (s : Settings γ) : Change → Settings γ × Option Fault
  | .set key v => s.set key v
  | .update v => s.update v
  | .load files path => s.loadOnto files path

/-- The settings after changes that are tried one after the other, refused ones among them. -/
def applyAll (s : Settings γ) (cs : List Change) : Settings γ :=
  cs.foldl (fun s c => (s.apply c).1) s

variable {c : Change} {cs ds : List Change} {v : Value}

theorem applyAll_append : s.applyAll (cs ++ ds) = (s.applyAll cs).applyAll ds := by
  simp [applyAll]

/-! ## What one change does -/

/-- The newest document takes the place of the one that holds, if it is valid. -/
theorem commit_inv (h : Keeps s t) (hcurrent : t.current = s.current) : Keeps s t.commit.1 ∧
    (t.commit.2 = none ∧ validate t.commit.1.config = .ok () ∨
      t.commit.2 ≠ none ∧ t.commit.1.current = s.current) := by
  unfold commit
  split
  · next hvalid => exact ⟨⟨h.made, h.document⟩, .inl ⟨rfl, hvalid⟩⟩
  · exact ⟨h, .inr ⟨nofun, hcurrent⟩⟩

/-- After a change a valid document holds, or the change was refused and the same one holds as
    before. No document that was there before has changed. -/
theorem apply_inv : Keeps s (s.apply c).1 ∧
    ((s.apply c).2 = none ∧ validate (s.apply c).1.config = .ok () ∨
      (s.apply c).2 ≠ none ∧ (s.apply c).1.current = s.current) := by
  cases c with
  | set key v =>
    simp only [apply, set]
    split
    · exact ⟨keeps_write, .inr ⟨Option.some_ne_none _, rfl⟩⟩
    · exact commit_inv keeps_write rfl
  | update v =>
    simp only [apply, update]
    split
    · exact ⟨.refl, .inr ⟨Option.some_ne_none _, rfl⟩⟩
    · exact commit_inv keeps_make rfl
  | load files path =>
    simp only [apply, loadOnto]
    split
    · exact ⟨.refl, .inr ⟨Option.some_ne_none _, rfl⟩⟩
    · split
      · exact ⟨.refl, .inr ⟨Option.some_ne_none _, rfl⟩⟩
      · exact commit_inv keeps_make rfl

theorem validate_of_apply (h : (s.apply c).2 = none) :
    validate (s.apply c).1.config = .ok () := by
  rcases (apply_inv (s := s) (c := c)).2 with ⟨-, hvalid⟩ | ⟨hne, -⟩
  · exact hvalid
  · exact absurd h hne

theorem config_of_refused (h : (s.apply c).2 ≠ none) : (s.apply c).1.config = s.config := by
  obtain ⟨hkeeps, ⟨hnone, -⟩ | ⟨-, hcurrent⟩⟩ := apply_inv (s := s) (c := c)
  · exact absurd hnone h
  · exact hkeeps.config hcurrent

/-! ## What a run of changes leaves -/

theorem validate_apply (h : validate s.config = .ok ()) :
    validate (s.apply c).1.config = .ok () := by
  by_cases hfault : (s.apply c).2 = none
  · exact validate_of_apply hfault
  · rw [config_of_refused hfault]
    exact h

theorem validate_applyAll (h : validate s.config = .ok ()) :
    validate (s.applyAll cs).config = .ok () := by
  induction cs generalizing s with
  | nil => exact h
  | cons c cs ih => exact ih (validate_apply h)

/-! ## The defaults -/

/-- The defaults by sections. -/
def standardSections : List (String × List (String × Value)) := [
  ("solver", [
    ("name", .text "walksat"), ("noise_level", .int 10), ("noise_start", .null),
    ("anneal_flips", .int 0), ("max_flips", .int 100000), ("max_tries", .int 1),
    ("timeout", .real (.ofScaled false 30 0)), ("progress_interval", .int 1000),
    ("check_consistency", .bool false)]),
  ("problem", [("format", .text "lines"), ("seed", .null)]),
  ("logging", [
    ("level", .text "INFO"), ("file", .null), ("format", .text defaultLogFormat),
    ("trace_dir", .null), ("trace_format", .text "json")])]

theorem standard_eq : standard = .ofSections standardSections := rfl

theorem isSingle_of_standard {a n : String} (h : standard.setting? a n = some v) :
    v.isSingle = true := by
  rw [standard_eq] at h
  exact Value.isSingle_of_setting? (by decide +kernel) h

section New

variable [LawfulLibrary γ]

theorem holds_new : ∃ s : Settings γ, new = .ok s ∧ Holds s.config standard := by
  obtain ⟨d, hd, hholds⟩ := LawfulLibrary.create_sections (γ := γ) standardSections (by decide)
    (by decide +kernel)
  refine ⟨⟨fun _ => d, 1, 0, Nat.one_pos⟩, ?_, hholds⟩
  unfold new
  rw [standard_eq, hd]

theorem accepts_single {root : Value} {a n : String} {accepts : Value → Bool} (hd : Holds d root)
    (ha : IsPlainName a) (hn : IsPlainName n) (hv : root.setting? a n = some v)
    (hsingle : v.isSingle = true) (haccepts : accepts v = true) :
    Accepts d (a ++ "." ++ n) accepts := by
  refine ⟨v, ?_, haccepts⟩
  rw [read_single hd ha hn hv hsingle]
  cases v <;> rfl

/-- The defaults pass their own check. -/
theorem validate_standard (hd : Holds d standard) : validate d = .ok () := by
  rw [validate_eq_ok_iff]
  refine ⟨?_, ?_, ?_, ?_, ?_, ?_, ?_, ?_, ?_⟩
  · exact accepts_single (a := "solver") (n := "noise_level") hd (by decide) (by decide) rfl rfl rfl
  · exact accepts_single (a := "solver") (n := "noise_start") hd (by decide) (by decide) rfl rfl rfl
  · exact accepts_single (a := "solver") (n := "max_flips") hd (by decide) (by decide) rfl rfl rfl
  · exact accepts_single (a := "solver") (n := "max_tries") hd (by decide) (by decide) rfl rfl rfl
  · exact accepts_single (a := "solver") (n := "timeout") hd (by decide) (by decide) rfl rfl
      (by decide +kernel)
  · exact accepts_single (a := "solver") (n := "anneal_flips") hd (by decide) (by decide) rfl rfl
      rfl
  · exact accepts_single (a := "solver") (n := "progress_interval") hd (by decide) (by decide) rfl
      rfl rfl
  · exact accepts_single (a := "logging") (n := "level") hd (by decide) (by decide) rfl rfl rfl
  · exact accepts_single (a := "logging") (n := "trace_format") hd (by decide) (by decide) rfl rfl
      rfl

theorem validate_new : ∃ s : Settings γ, new = .ok s ∧ validate s.config = .ok () := by
  obtain ⟨s, hs, hholds⟩ := holds_new (γ := γ)
  exact ⟨s, hs, validate_standard hholds⟩

end New

/-! ## What valid settings read as -/

/-- Settings that can be read: a search has its parameters from them, a log its level, and a trace
    its form, all through references and with the defaults for what is missing. -/
structure Readable (s : Settings γ) : Prop where
  valid : validate s.config = .ok ()
  noiseLevel : ∃ n : Percent, s.get "solver.noise_level" (.int 10) = .ok (.int n.val)
  noiseStart : s.get "solver.noise_start" .null = .ok .null ∨
    ∃ n : Percent, s.get "solver.noise_start" .null = .ok (.int n.val)
  maxFlips : ∃ n : Nat, 0 < n ∧ s.get "solver.max_flips" (.int 100000) = .ok (.int n)
  maxTries : ∃ n : Nat, 0 < n ∧ s.get "solver.max_tries" (.int 1) = .ok (.int n)
  annealFlips : ∃ n : Nat, s.get "solver.anneal_flips" (.int 0) = .ok (.int n)
  progressInterval : ∃ n : Nat, s.get "solver.progress_interval" (.int 1000) = .ok (.int n)
  parameters : ∀ p, Parameters.ofSettings s = .ok p → p.Valid
  level : ∃ v n, s.get "logging.level" (.text "INFO") = .ok v ∧ Log.levelOf v = .ok n
  traceFormat : s.get "logging.trace_format" (.text "json") = .ok (.text "json") ∨
    s.get "logging.trace_format" (.text "json") = .ok (.text "csv")

theorem levelOf_of_isLevel (h : isLevel v = true) : ∃ n, Log.levelOf v = .ok n := by
  cases v with
  | int n => exact ⟨n, rfl⟩
  | text name =>
    obtain ⟨n, hn⟩ := Option.isSome_iff_exists.mp h
    exact ⟨n, by simp [Log.levelOf, hn]⟩
  | null | bool | real | bytes | path | list | tuple | table | foreign => cases h

theorem isTraceFormat_iff : isTraceFormat v = true ↔ v = .text "json" ∨ v = .text "csv" := by
  cases v <;> simp [isTraceFormat]

theorem readable_of_validate (h : validate s.config = .ok ()) : s.Readable := by
  obtain ⟨hlevel, hstart, hflips, htries, -, hanneal, hinterval, hlog, hformat⟩ :=
    validate_eq_ok_iff.mp h
  refine ⟨h, ?_, ?_, ?_, ?_, ?_, ?_, fun p hp => Parameters.valid_ofSettings h hp, ?_, ?_⟩
  · obtain ⟨w, hw, hv⟩ := hlevel.read (.int 10)
    rcases isPercentage_iff.mp hw with rfl | ⟨n, rfl⟩
    · exact ⟨.default, hv⟩
    · exact ⟨n, hv⟩
  · obtain ⟨w, hw, hv⟩ := hstart.read .null
    rcases isPercentage_iff.mp hw with rfl | ⟨n, rfl⟩
    · exact .inl hv
    · exact .inr ⟨n, hv⟩
  · obtain ⟨w, hw, hv⟩ := hflips.read (.int 100000)
    obtain ⟨n, hn, rfl⟩ := isPositive_iff.mp hw
    exact ⟨n, hn, hv⟩
  · obtain ⟨w, hw, hv⟩ := htries.read (.int 1)
    obtain ⟨n, hn, rfl⟩ := isPositive_iff.mp hw
    exact ⟨n, hn, hv⟩
  · obtain ⟨w, hw, hv⟩ := hanneal.read (.int 0)
    obtain ⟨n, rfl⟩ := isNonNegative_iff.mp hw
    exact ⟨n, hv⟩
  · obtain ⟨w, hw, hv⟩ := hinterval.read (.int 1000)
    obtain ⟨n, rfl⟩ := isNonNegative_iff.mp hw
    exact ⟨n, hv⟩
  · obtain ⟨w, hw, hv⟩ := hlog.read (.text "INFO")
    obtain ⟨n, hn⟩ := levelOf_of_isLevel hw
    refine ⟨w, n, hv.trans ?_, hn⟩
    cases w <;> first | rfl | cases hw
  · obtain ⟨w, hw, hv⟩ := hformat.read (.text "json")
    rcases isTraceFormat_iff.mp hw with rfl | rfl
    · exact .inl hv
    · exact .inr hv

/-- Settings that start from the defaults are readable after any run of changes, refused ones among
    them. A change that is tried next leaves every document as it was; if it is refused, the same
    one holds as before, and if not, the settings are readable again. -/
theorem applyAll_readable [LawfulLibrary γ] (cs : List Change) (c : Change) :
    ∃ s₀ : Settings γ, new = .ok s₀ ∧
      let s := s₀.applyAll cs
      s.Readable ∧ (s.apply c).1.Readable ∧ Keeps s (s.apply c).1 ∧
        ((s.apply c).2 ≠ none →
          (s.apply c).1.current = s.current ∧ (s.apply c).1.config = s.config) := by
  obtain ⟨s₀, hs₀, hvalid⟩ := validate_new (γ := γ)
  have hrun : validate (s₀.applyAll cs).config = .ok () := validate_applyAll hvalid
  refine ⟨s₀, hs₀, readable_of_validate hrun, readable_of_validate (validate_apply hrun), ?_⟩
  obtain ⟨hkeeps, hcase⟩ := apply_inv (s := s₀.applyAll cs) (c := c)
  refine ⟨hkeeps, fun hfault => ⟨?_, config_of_refused hfault⟩⟩
  rcases hcase with ⟨hnone, -⟩ | ⟨-, hcurrent⟩
  · exact absurd hnone hfault
  · exact hcurrent

/-- A noise that refers to another key: the other key cannot take it out of its bounds. -/
theorem applyAll_readable_of_reference :
    let cs := [
      .set "search.noise" (.int 20),
      .set "solver.noise_level" (.text "$\x7bsearch.noise\x7d")]
    let c := Change.set "search.noise" (.int 200)
    ∃ s₀ : Settings Document, new = .ok s₀ ∧
      let s := s₀.applyAll cs
      (s.apply c).2 ≠ none ∧ (s.apply c).1.config = s.config ∧
        ((s.apply c).1.get "solver.noise_level" .null).toOption.bind Value.toInt? = some 20 := by
  intro cs c
  obtain ⟨s₀, hs₀, -, -, -, hrefused⟩ := applyAll_readable (γ := Document) cs c
  have hnew : (new : Except Fault (Settings Document)) =
      .ok ⟨fun _ => ⟨standard⟩, 1, 0, Nat.one_pos⟩ := rfl
  obtain rfl := Except.ok.inj (hnew.symm.trans hs₀)
  have hfault : ((Settings.apply (Settings.applyAll
      ⟨fun _ => (⟨standard⟩ : Document), 1, 0, Nat.one_pos⟩ cs) c).2).isSome = true := by
    decide +kernel
  have hne := Option.ne_none_iff_isSome.mpr hfault
  refine ⟨_, hs₀, hne, (hrefused hne).2, ?_⟩
  decide +kernel

/-! ## The settings of the command -/

section Command

open CommandLine

/-- Settings that a run of changes makes from others. -/
def Leads (s t : Settings γ) : Prop := ∃ cs, s.applyAll cs = t

/-- Settings that a run of changes makes from the defaults. -/
def Reached (s : Settings γ) : Prop := ∃ s₀, new = .ok s₀ ∧ Leads s₀ s

theorem Reached.validate [LawfulLibrary γ] (h : Reached s) : validate s.config = .ok () := by
  obtain ⟨s₀, hs₀, cs, rfl⟩ := h
  obtain ⟨t, ht, hvalid⟩ := validate_new (γ := γ)
  obtain rfl : s₀ = t := Except.ok.inj (hs₀.symm.trans ht)
  exact validate_applyAll hvalid

theorem Leads.refl : Leads s s := ⟨[], rfl⟩

theorem Leads.trans (h : Leads s t) (h' : Leads t u) : Leads s u := by
  obtain ⟨cs, rfl⟩ := h
  obtain ⟨ds, rfl⟩ := h'
  exact ⟨cs ++ ds, applyAll_append⟩

theorem leads_of_required (h : required (s.apply c) = .ok t) : Leads s t := by
  refine ⟨[c], ?_⟩
  unfold required at h
  split at h
  · next heq =>
    obtain rfl := Except.ok.inj h
    simp [applyAll, heq]
  · cases h

theorem leads_of_override {item : String} (h : applyOverride s item = .ok t) : Leads s t := by
  unfold applyOverride at h
  split at h
  · cases h
  · cases h
  · obtain ⟨v, -, h⟩ := bind_eq_ok_iff.mp h
    exact leads_of_required (c := .set _ v) h

theorem leads_of_overrides {items : List String} (h : applyOverrides s items = .ok t) :
    Leads s t := by
  induction items generalizing s with
  | nil =>
    obtain rfl : s = t := Except.ok.inj h
    exact .refl
  | cons item items ih =>
    obtain ⟨u, hu, h⟩ := bind_eq_ok_iff.mp h
    exact (leads_of_override hu).trans (ih h)

theorem leads_of_values {values : List (String × Option Value)}
    (h : applyValues s values = .ok t) : Leads s t := by
  induction values generalizing s with
  | nil =>
    obtain rfl : s = t := Except.ok.inj h
    exact .refl
  | cons e values ih =>
    obtain ⟨key, _ | v⟩ := e
    · exact ih h
    · obtain ⟨u, hu, h⟩ := bind_eq_ok_iff.mp h
      exact (leads_of_required (c := .set key v) hu).trans (ih h)

/-- The command has its settings from the defaults by a run of changes. -/
theorem reached_of_settings {args : SolveArguments} {files : FileTree}
    (h : args.settings files = .ok s) : Reached s := by
  have hrest : ∀ {t : Settings γ}, (do
      let u ← applyOverrides t args.sets
      applyValues u args.values) = .ok s → Leads t s := by
    intro t h
    obtain ⟨u, hu, h⟩ := bind_eq_ok_iff.mp h
    exact (leads_of_overrides hu).trans (leads_of_values h)
  unfold SolveArguments.settings at h
  split at h
  · obtain ⟨s₀, hs₀, h⟩ := bind_eq_ok_iff.mp h
    exact ⟨s₀, hs₀, hrest h⟩
  · obtain ⟨s₀, hs₀, h⟩ := bind_eq_ok_iff.mp h
    exact ⟨s₀, hs₀, hrest h⟩
  · next path _ _ =>
    obtain ⟨t, ht, h⟩ := bind_eq_ok_iff.mp h
    obtain ⟨s₀, hs₀, ht⟩ := bind_eq_ok_iff.mp ht
    exact ⟨s₀, hs₀, (leads_of_required (c := .load files path) ht).trans (hrest h)⟩

end Command

end FlipSat.Settings
