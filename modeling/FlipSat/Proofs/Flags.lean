import FlipSat.CommandLine.Solve
import FlipSat.Proofs.Changes

/-
  FlipSat: the settings that options alone give.
  A single value that is put at a key takes the place of the single value there and leaves all else,
  so settings that start from the defaults hold flags (`Flags.HeldBy`) while options are put in.
  They are checked after every option; since the checks read the options in the order in which they
  are put in, the first fault is the same as if they were checked once at the end
  (`yields_settings`).
-/
namespace FlipSat

/-! ## Entries of sections -/

theorem Entries.get?_map_text (K : List (String × Value)) (n : String) :
    Entries.get? (K.map fun e => (.text e.1, e.2)) (.text n) = K.lookup n := by
  induction K with
  | nil => rfl
  | cons e K ih =>
    rw [List.map_cons, get?_cons, ih, List.lookup_cons]
    by_cases h : n = e.1
    · simp [h]
    · simp [Ne.symm h, beq_eq_false_iff_ne.mpr h]

theorem Value.setting?_ofSections (sections : List (String × List (String × Value)))
    (a n : String) :
    (Value.ofSections sections).setting? a n = (sections.lookup a).bind (·.lookup n) := by
  unfold setting? section? ofSections
  induction sections with
  | nil => rfl
  | cons s sections ih =>
    dsimp only at ih ⊢
    rw [List.map_cons, Entries.get?_cons, List.lookup_cons]
    by_cases h : a = s.1
    · simp [h, Entries.get?_map_text]
    · simpa [h, Ne.symm h, beq_eq_false_iff_ne.mpr h] using ih

namespace CommandLine

/-! ## Flags -/

/-- What the options of a search come to, with the defaults for those that are not given. -/
structure Flags where
  noise : Int := 10
  maxFlips : Int := 100000
  maxTries : Int := 1
  timeout : Binary64 := .ofScaled false 30 0
  seed : Option Int := none
  dimacs : Bool := false

namespace Flags

/-- The sections of settings that flags stand for. -/
def sections (v : Flags) : List (String × List (String × Value)) := [
  ("solver", [
    ("name", .text "walksat"), ("noise_level", .int v.noise), ("noise_start", .null),
    ("anneal_flips", .int 0), ("max_flips", .int v.maxFlips), ("max_tries", .int v.maxTries),
    ("timeout", .real v.timeout), ("progress_interval", .int 1000),
    ("check_consistency", .bool false)]),
  ("problem", [
    ("format", .text (if v.dimacs then "dimacs" else "lines")),
    ("seed", (v.seed.map Value.int).getD .null)]),
  ("logging", [
    ("level", .text "INFO"), ("file", .null), ("format", .text Settings.defaultLogFormat),
    ("trace_dir", .null), ("trace_format", .text "json")])]

/-- The value of a key that flags stand for. -/
def value? (v : Flags) (a n : String) : Option Value := (v.sections.lookup a).bind (·.lookup n)

/-- The parameters that flags stand for. -/
def parameters (v : Flags) : Parameters where
  noiseLevel := .int v.noise
  maxFlips := .int v.maxFlips
  maxTries := .int v.maxTries
  timeout := .real v.timeout

/-- Flags that a search can go by: the noise is a percentage, there is room for a flip and a try,
    and the timeout is not zero or less. -/
structure Admitted (v : Flags) : Prop where
  noise : 0 ≤ v.noise ∧ v.noise ≤ 100
  maxFlips : 0 < v.maxFlips
  maxTries : 0 < v.maxTries
  timeout : v.timeout.le (.zero false) = false

variable {v w : Flags} {a n : String} {x : Value}

theorem isSingle_of_value? (h : v.value? a n = some x) : x.isSingle = true := by
  refine Value.isSingle_of_setting? ?_ ((Value.setting?_ofSections v.sections a n).trans h)
  have hformat : (Value.text (if v.dimacs then "dimacs" else "lines")).isSingle = true := by
    cases v.dimacs <;> rfl
  have hseed : ((v.seed.map Value.int).getD .null).isSingle = true := by
    cases v.seed <;> rfl
  have hlog : (Value.text Settings.defaultLogFormat).isSingle = true := by decide +kernel
  simp only [sections, List.forall_mem_cons]
  exact ⟨⟨rfl, rfl, rfl, rfl, rfl, rfl, rfl, rfl, rfl, nofun⟩, ⟨hformat, hseed, nofun⟩,
    ⟨rfl, rfl, hlog, rfl, rfl, nofun⟩, nofun⟩

/-! ## Documents that hold flags -/

variable {γ : Type} [SettingsLibrary γ] {d : γ} {s t : Settings γ}

/-- The document holds what flags stand for. -/
def HeldBy (v : Flags) (d : γ) : Prop :=
  ∃ root, Holds d root ∧ ∀ a n, root.setting? a n = v.value? a n

theorem heldBy_of_standard (h : Holds d Settings.standard) : HeldBy {} d :=
  ⟨_, h, fun a n => Value.setting?_ofSections (sections {}) a n⟩

variable [LawfulLibrary γ]

theorem HeldBy.read (h : v.HeldBy d) (ha : IsPlainName a) (hn : IsPlainName n)
    (hx : v.value? a n = some x) (default : Value) :
    Settings.read d (a ++ "." ++ n) default = .ok (if x.isNull then default else x) := by
  obtain ⟨root, hroot, hentries⟩ := h
  exact Settings.read_single hroot ha hn ((hentries a n).trans hx) (isSingle_of_value? hx) default

/-! ## Checking -/

/-- The fault of a value that a check refuses. -/
def refused? (accepts : Value → Bool) (refusal : Value → ConfigFault) (x : Value) :
    Option ConfigFault :=
  if accepts x then none else some (refusal x)

/-- The first of the flags that a search cannot go by. -/
def fault? (v : Flags) : Option ConfigFault :=
  (refused? Settings.isPercentage (.notPercentage "solver.noise_level") (.int v.noise)).or
    ((refused? Settings.isPositive (.notPositive "solver.max_flips") (.int v.maxFlips)).or
      ((refused? Settings.isPositive (.notPositive "solver.max_tries") (.int v.maxTries)).or
        (refused? Settings.isTimeout .badTimeout (.real v.timeout))))

theorem refused?_eq_none_iff {accepts : Value → Bool} {refusal : Value → ConfigFault} :
    refused? accepts refusal x = none ↔ accepts x = true := by
  simp [refused?]

theorem fault?_eq_none_iff : v.fault? = none ↔ v.Admitted := by
  simp only [fault?, Option.or_eq_none_iff, refused?_eq_none_iff, Settings.isPercentage,
    Settings.isPositive, Settings.isTimeout, Bool.and_eq_true, decide_eq_true_eq,
    Bool.not_eq_true']
  constructor
  · rintro ⟨hnoise, hflips, htries, htimeout⟩
    exact ⟨hnoise, hflips, htries, htimeout⟩
  · intro h
    exact ⟨h.noise, h.maxFlips, h.maxTries, h.timeout⟩

/-- What a check makes of one possible fault. -/
def outcome (o : Option ConfigFault) : Except Fault Unit :=
  o.elim (.ok ()) fun c => .error (.ofConfig c)

/-- A check, then others. -/
theorem bind_outcome {x y : Except Fault Unit} {o q : Option ConfigFault} (hx : x = outcome o)
    (hy : y = outcome q) : (do x; y) = outcome (o.or q) := by
  subst hx hy
  cases o <;> rfl

theorem HeldBy.check (h : v.HeldBy d) (ha : IsPlainName a) (hn : IsPlainName n)
    (hx : v.value? a n = some x) (accepts : Value → Bool) (refusal : Value → ConfigFault) :
    Settings.check d (a ++ "." ++ n) accepts refusal = outcome (refused? accepts refusal x) := by
  have hread : Settings.read d (a ++ "." ++ n) .null = .ok x := by
    refine (h.read ha hn hx .null).trans ?_
    cases x <;> rfl
  unfold Settings.check
  rw [hread]
  cases haccepts : accepts x <;> simp [bind, Except.bind, haccepts, outcome, refused?]

/-- What the checks of settings make of flags. -/
theorem HeldBy.validate (h : v.HeldBy d) : Settings.validate d = outcome v.fault? := by
  have hsolver : ∀ {n : String} {x : Value} {accepts : Value → Bool}
      {refusal : Value → ConfigFault}, IsPlainName n → v.value? "solver" n = some x →
      Settings.check d ("solver." ++ n) accepts refusal = outcome (refused? accepts refusal x) :=
    fun hn hx => h.check (by decide) hn hx _ _
  have hlogging : ∀ {n : String} {x : Value} {accepts : Value → Bool}
      {refusal : Value → ConfigFault}, IsPlainName n → v.value? "logging" n = some x →
      Settings.check d ("logging." ++ n) accepts refusal = outcome (refused? accepts refusal x) :=
    fun hn hx => h.check (by decide) hn hx _ _
  unfold Settings.validate
  refine Eq.trans (bind_outcome (hsolver (n := "noise_level") (by decide) rfl) <|
    bind_outcome (hsolver (n := "noise_start") (by decide) rfl) <|
    bind_outcome (hsolver (n := "max_flips") (by decide) rfl) <|
    bind_outcome (hsolver (n := "max_tries") (by decide) rfl) <|
    bind_outcome (hsolver (n := "timeout") (by decide) rfl) <|
    bind_outcome (hsolver (n := "anneal_flips") (by decide) rfl) <|
    bind_outcome (hsolver (n := "progress_interval") (by decide) rfl) <|
    bind_outcome (hlogging (n := "level") (by decide) rfl)
      (hlogging (n := "trace_format") (by decide) rfl)) (congrArg outcome ?_)
  show (refused? _ _ _).or ((refused? _ _ _).or ((refused? _ _ _).or
    ((refused? _ _ _).or none))) = _
  rw [fault?, Option.or_none]

/-! ## Putting flags in -/

/-- Sections with another value at an entry. -/
def withValue (sections : List (String × List (String × Value))) (a n : String) (x : Value) :
    List (String × List (String × Value)) :=
  sections.map fun s => (s.1, if s.1 = a then
    s.2.map fun e => (e.1, if e.1 = n then x else e.2)
  else s.2)

/-- A single value at a key makes flags into others. -/
structure Puts (v : Flags) (a n : String) (x : Value) (w : Flags) : Prop where
  sectionName : IsPlainName a
  name : IsPlainName n
  there : (v.value? a n).isSome = true
  single : x.isSingle = true
  sections : w.sections = withValue v.sections a n x

theorem lookup_map {α β : Type} (l : List (String × α)) (f : String → α → β) (n : String) :
    (l.map fun e => (e.1, f e.1 e.2)).lookup n = (l.lookup n).map (f n) := by
  induction l with
  | nil => rfl
  | cons e l ih =>
    rw [List.map_cons, List.lookup_cons, List.lookup_cons, ih]
    by_cases h : n = e.1
    · simp [h]
    · simp [beq_eq_false_iff_ne.mpr h]

theorem Puts.values (h : v.Puts a n x w) (b m : String) :
    w.value? b m = if b = a ∧ m = n then some x else v.value? b m := by
  have hsection : w.sections.lookup b = (v.sections.lookup b).map fun es =>
      if b = a then es.map fun e => (e.1, if e.1 = n then x else e.2) else es := by
    rw [h.sections]
    exact lookup_map v.sections (fun s es =>
      if s = a then es.map fun e => (e.1, if e.1 = n then x else e.2) else es) b
  have hentry : ∀ es : List (String × Value),
      (es.map fun e => (e.1, if e.1 = n then x else e.2)).lookup m =
        (es.lookup m).map fun y => if m = n then x else y :=
    fun es => lookup_map es (fun k y => if k = n then x else y) m
  have hthere := h.there
  unfold value? at hthere ⊢
  rw [hsection]
  by_cases hb : b = a
  · subst hb
    cases hes : v.sections.lookup b with
    | none => simp [hes] at hthere
    | some es =>
      by_cases hm : m = n
      · subst hm
        cases hold : es.lookup m with
        | none => simp [hes, hold] at hthere
        | some old => simp [hentry, hold]
      · simp [hentry, hm]
  · simp [hb]

/-- What becomes of settings that are to hold flags: they do, or there is the fault of the first
    flag that cannot be gone by. -/
def Yields (v : Flags) (r : Except Fault (Settings γ)) : Prop :=
  match v.fault? with
  | none => ∃ t, r = .ok t ∧ v.HeldBy t.config
  | some c => r = .error (.ofConfig c)

theorem Puts.yields (hp : v.Puts a n x w) (h : v.HeldBy s.config) :
    w.Yields (Settings.required (s.set (a ++ "." ++ n) x)) := by
  obtain ⟨root, hroot, hentries⟩ := h
  obtain ⟨old, hold⟩ := Option.isSome_iff_exists.mp hp.there
  obtain ⟨d, root', hupdate, hroot', hvalues⟩ := LawfulLibrary.update_single s.config root old x a n
    hroot hp.sectionName hp.name ((hentries a n).trans hold) (isSingle_of_value? hold) hp.single
  have hheld : w.HeldBy d := by
    refine ⟨root', hroot', fun b m => ?_⟩
    rw [hvalues, hp.values, hentries]
  have hcopy : (s.make s.config).document (s.make s.config).newest = s.config := if_pos rfl
  have hwritten : ((s.make s.config).write (s.make s.config).newest d).document
      ((s.make s.config).write (s.make s.config).newest d).newest = d := if_pos rfl
  have hset : s.set (a ++ "." ++ n) x =
      ((s.make s.config).write (s.make s.config).newest d).commit := by
    unfold Settings.set
    simp only [hcopy, hupdate]
  rw [hset]
  unfold Yields Settings.commit
  rw [hwritten, hheld.validate]
  cases w.fault? with
  | none =>
    refine ⟨_, rfl, ?_⟩
    show w.HeldBy (((s.make s.config).write (s.make s.config).newest d).document _)
    rw [hwritten]
    exact hheld
  | some c => rfl

/-! ## Options one by one -/

/-- One option: flags with its value put in, or as they are if it is not given. -/
def Takes (v : Flags) (a n : String) (o : Option Value) (w : Flags) : Prop :=
  o = none ∧ w = v ∨ ∃ x, o = some x ∧ v.Puts a n x w

theorem takes_noise (v : Flags) : ∀ o : Option Int,
    v.Takes "solver" "noise_level" (o.map .int) { v with noise := o.getD v.noise }
  | none => .inl ⟨rfl, rfl⟩
  | some _ => .inr ⟨_, rfl, by decide, by decide, rfl, rfl, rfl⟩

theorem takes_maxFlips (v : Flags) : ∀ o : Option Int,
    v.Takes "solver" "max_flips" (o.map .int) { v with maxFlips := o.getD v.maxFlips }
  | none => .inl ⟨rfl, rfl⟩
  | some _ => .inr ⟨_, rfl, by decide, by decide, rfl, rfl, rfl⟩

theorem takes_maxTries (v : Flags) : ∀ o : Option Int,
    v.Takes "solver" "max_tries" (o.map .int) { v with maxTries := o.getD v.maxTries }
  | none => .inl ⟨rfl, rfl⟩
  | some _ => .inr ⟨_, rfl, by decide, by decide, rfl, rfl, rfl⟩

theorem takes_timeout (v : Flags) : ∀ o : Option Binary64,
    v.Takes "solver" "timeout" (o.map .real) { v with timeout := o.getD v.timeout }
  | none => .inl ⟨rfl, rfl⟩
  | some _ => .inr ⟨_, rfl, by decide, by decide, rfl, rfl, rfl⟩

theorem takes_seed (v : Flags) : ∀ o : Option Int,
    v.Takes "problem" "seed" (o.map .int) { v with seed := o.or v.seed }
  | none => .inl ⟨rfl, rfl⟩
  | some _ => .inr ⟨_, rfl, by decide, by decide, rfl, rfl, rfl⟩

theorem takes_dimacs (v : Flags) : ∀ b : Bool,
    v.Takes "problem" "format" (if b then some (.text "dimacs") else none)
      { v with dimacs := b || v.dimacs }
  | false => .inl ⟨rfl, rfl⟩
  | true => .inr ⟨_, rfl, by decide, by decide, rfl, rfl, rfl⟩

/-! ## Faults -/

theorem fault?_standard : fault? {} = none :=
  fault?_eq_none_iff.mpr ⟨by decide, by decide, by decide, by decide +kernel⟩

/-- Can the flags be written in messages and in a log? -/
structure Writable (v : Flags) : Prop where
  noise : (Value.int v.noise).isWritable = true
  maxFlips : (Value.int v.maxFlips).isWritable = true
  maxTries : (Value.int v.maxTries).isWritable = true

theorem Writable.ofConfig {c : ConfigFault} (hv : v.Writable) (h : v.fault? = some c) :
    Fault.ofConfig c = .config c := by
  have hvalue : ∃ x, c.value? = some x ∧ x.isWritable = true := by
    unfold fault? refused? at h
    simp only [Option.or_eq_some_iff, Option.ite_none_left_eq_some, Option.some.injEq] at h
    rcases h with ⟨-, rfl⟩ | ⟨-, ⟨-, rfl⟩ | ⟨-, ⟨-, rfl⟩ | ⟨-, -, rfl⟩⟩⟩
    · exact ⟨.int v.noise, rfl, hv.noise⟩
    · exact ⟨.int v.maxFlips, rfl, hv.maxFlips⟩
    · exact ⟨.int v.maxTries, rfl, hv.maxTries⟩
    · exact ⟨.real v.timeout, rfl, rfl⟩
  obtain ⟨x, hx, hwritable⟩ := hvalue
  unfold Fault.ofConfig
  rw [hx, Option.map_some, Option.getD_some, if_pos hwritable]

/-! ## Reading -/

theorem HeldBy.get (h : v.HeldBy s.config) (ha : IsPlainName a) (hn : IsPlainName n)
    (hx : v.value? a n = some x) (default : Value) :
    s.get (a ++ "." ++ n) default = .ok (if x.isNull then default else x) :=
  h.read ha hn hx default

theorem HeldBy.ofSettings (h : v.HeldBy s.config) :
    Parameters.ofSettings s = .ok v.parameters := by
  have hget : ∀ {n : String} {x : Value}, IsPlainName n → v.value? "solver" n = some x →
      ∀ default, s.get ("solver." ++ n) default = .ok (if x.isNull then default else x) :=
    fun hn hx => h.get (by decide) hn hx
  exact Parameters.ofSettings_eq_ok_iff.mpr ⟨
    hget (n := "noise_level") (by decide) rfl _, hget (n := "noise_start") (by decide) rfl _,
    hget (n := "anneal_flips") (by decide) rfl _, hget (n := "max_flips") (by decide) rfl _,
    hget (n := "max_tries") (by decide) rfl _, hget (n := "timeout") (by decide) rfl _,
    hget (n := "progress_interval") (by decide) rfl _,
    hget (n := "check_consistency") (by decide) rfl _⟩

theorem HeldBy.get_format (h : v.HeldBy s.config) : s.get "problem.format" .null =
    .ok (.text (if v.dimacs then "dimacs" else "lines")) :=
  h.get (a := "problem") (n := "format") (by decide) (by decide) rfl _

theorem HeldBy.get_seed (h : v.HeldBy s.config) :
    s.get "problem.seed" .null = .ok ((v.seed.map Value.int).getD .null) := by
  refine (h.get (a := "problem") (n := "seed") (by decide) (by decide) rfl .null).trans ?_
  cases v.seed <;> rfl

/-- The log of a run with flags is on the error stream. -/
theorem HeldBy.openLog (h : v.HeldBy s.config) (files : FileTree) :
    ∃ log, openLog s false files = (files, .ok log) ∧ log.file = none := by
  have hlevel : s.get "logging.level" (.text "INFO") = .ok (.text "INFO") :=
    h.get (a := "logging") (n := "level") (by decide) (by decide) rfl _
  have hformat : s.get "logging.format" .null = .ok (.text Settings.defaultLogFormat) :=
    h.get (a := "logging") (n := "format") (by decide) (by decide) rfl _
  have hfile : s.get "logging.file" .null = .ok .null :=
    h.get (a := "logging") (n := "file") (by decide) (by decide) rfl _
  have hlevelOf : Log.levelOf (.text "INFO") = .ok Level.info :=
    toOption_eq_some_iff.mp (by decide +kernel)
  have hfield : LogFormat.namesField Settings.defaultLogFormat.toList = true := by decide +kernel
  have hformatOf : Log.formatOf (.text Settings.defaultLogFormat) =
      .ok (.ofText Settings.defaultLogFormat) := by
    unfold Log.formatOf
    rw [if_neg (by decide +kernel)]
    exact if_pos hfield
  have hconfigure : Log.configure files (.text "INFO") (.text Settings.defaultLogFormat) .null =
      (files, .ok ⟨Level.info, .ofText Settings.defaultLogFormat, none⟩) := by
    unfold Log.configure
    rw [hformatOf, hlevelOf]
    rfl
  refine ⟨⟨Level.info, .ofText Settings.defaultLogFormat, none⟩, ?_, rfl⟩
  unfold CommandLine.openLog
  rw [hlevel, hformat, hfile]
  exact hconfigure

/-- There is no trace of a run with flags. -/
theorem HeldBy.openTrace (h : v.HeldBy s.config) (files : FileTree) (now : String) :
    openTrace s files now = .ok (none, files) := by
  have hdir : s.get "logging.trace_dir" .null = .ok .null :=
    h.get (a := "logging") (n := "trace_dir") (by decide) (by decide) rfl _
  unfold CommandLine.openTrace
  rw [hdir]
  rfl

end Flags

/-! ## Options -/

namespace SolveArguments

open Flags

variable {args : SolveArguments} {γ : Type} [SettingsLibrary γ] [LawfulLibrary γ] {s : Settings γ}

/-- Only flags are given: no file of settings, no overrides, no trace, and no more of a log. -/
structure Plain (args : SolveArguments) : Prop where
  config : args.config = none
  sets : args.sets = []
  traceDir : args.traceDir = none
  debug : args.debug = false

/-- The flags that options stand for, from those that hold without them. -/
def flagsOnto (args : SolveArguments) (v : Flags) : Flags where
  noise := args.noise.getD v.noise
  maxFlips := args.maxFlips.getD v.maxFlips
  maxTries := args.maxTries.getD v.maxTries
  timeout := args.timeout.getD v.timeout
  seed := args.seed.or v.seed
  dimacs := args.dimacs || v.dimacs

/-- The flags that options stand for. -/
def flags (args : SolveArguments) : Flags := args.flagsOnto {}

/-- One option: settings hold flags that can be gone by so far, and then those with the option put
    in. A fault in one of these is the fault of all flags. -/
theorem applyValues_cons {v w u : Flags} {a n : String} {o : Option Value}
    {rest : List (String × Option Value)} (htakes : v.Takes a n o w) (hs : v.HeldBy s.config)
    (hv : v.fault? = none) (hw : ∀ c, w.fault? = some c → u.fault? = some c)
    (hrest : ∀ t : Settings γ, w.HeldBy t.config → w.fault? = none →
      u.Yields (applyValues t rest)) :
    u.Yields (applyValues s ((a ++ "." ++ n, o) :: rest)) := by
  rcases htakes with ⟨rfl, rfl⟩ | ⟨x, rfl, hputs⟩
  · exact hrest s hs hv
  · have hset := hputs.yields hs
    unfold Yields at hset
    rw [applyValues]
    cases hfault : w.fault? with
    | none =>
      rw [hfault] at hset
      obtain ⟨t, ht, hheld⟩ := hset
      rw [ht]
      exact hrest t hheld hfault
    | some c =>
      rw [hfault] at hset
      dsimp only at hset
      unfold Yields
      rw [hset, hw c hfault]
      rfl

/-- Options in the order of the checks: when one of them cannot be gone by, those before it can, and
    those after it are not looked at. -/
theorem applyValues_values (h : args.Plain) {v : Flags} (hs : v.HeldBy s.config)
    (hv : v.fault? = none) : (args.flagsOnto v).Yields (applyValues s args.values) := by
  obtain ⟨-, hflips, htries, htimeout⟩ :
      refused? Settings.isPercentage (.notPercentage "solver.noise_level") (.int v.noise) = none ∧
        refused? Settings.isPositive (.notPositive "solver.max_flips") (.int v.maxFlips) = none ∧
        refused? Settings.isPositive (.notPositive "solver.max_tries") (.int v.maxTries) = none ∧
        refused? Settings.isTimeout .badTimeout (.real v.timeout) = none := by
    simpa only [fault?, Option.or_eq_none_iff] using hv
  rw [values, h.traceDir]
  refine applyValues_cons (v.takes_noise args.noise) hs hv (fun c hc => ?_) fun _ hs h1 =>
    applyValues_cons (takes_maxFlips _ args.maxFlips) hs h1 (fun c hc => ?_) fun _ hs h2 =>
    applyValues_cons (takes_maxTries _ args.maxTries) hs h2 (fun c hc => ?_) fun _ hs h3 =>
    applyValues_cons (takes_timeout _ args.timeout) hs h3 (fun c hc => hc) fun _ hs h4 =>
    applyValues_cons (takes_seed _ args.seed) hs h4 (fun c hc => hc) fun _ hs h5 =>
    applyValues_cons (a := "logging") (n := "trace_dir") (.inl ⟨rfl, rfl⟩) hs h5 (fun c hc => hc)
      fun _ hs h6 =>
    applyValues_cons (takes_dimacs _ args.dimacs) hs h6 (fun c hc => hc) fun t hs h7 => ?_
  · simp only [fault?, hflips, htries, htimeout, Option.or_none] at hc
    simp only [flagsOnto, fault?, hc, Option.some_or]
  · simp only [fault?, Option.or_eq_none_iff] at h1
    simp only [fault?, h1, Option.or_none, Option.none_or] at hc
    simp only [flagsOnto, fault?, h1, hc, Option.some_or, Option.none_or]
  · simp only [fault?, Option.or_eq_none_iff] at h2
    simp only [fault?, h2, Option.or_none, Option.none_or] at hc
    simp only [flagsOnto, fault?, h2, hc, Option.some_or, Option.none_or]
  · have hfault : (args.flagsOnto v).fault? = none := h7
    unfold Yields
    rw [hfault]
    exact ⟨t, rfl, hs⟩

/-- The settings of a run that has only flags to go by hold the flags, or its fault is the first of
    the flags that cannot be gone by. -/
theorem yields_settings (h : args.Plain) (files : FileTree) :
    args.flags.Yields (args.settings files : Except Fault (Settings γ)) := by
  obtain ⟨s, hs, hholds⟩ := Settings.holds_new (γ := γ)
  have hvalues : args.settings files = applyValues s args.values := by
    unfold settings
    rw [h.config, h.sets, hs]
    rfl
  rw [hvalues]
  exact applyValues_values h (heldBy_of_standard hholds) fault?_standard

end SolveArguments

end CommandLine

end FlipSat
