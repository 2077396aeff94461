import FlipSat.Proofs.Changes
import FlipSat.Proofs.Return

/-
  FlipSat: overrides of parameters against the same overrides merged into the settings.
  Overrides are checked in a document into which they are merged, but they are kept as they were
  given. So what was checked and what a search uses can differ: a text can be a reference, which is
  checked as what it leads to and kept as a text, and null is checked as absence and kept as null.
    * `lookup_putAll`: what is kept;
    * `get_of_update`, `get_of_update_kept`: what is read from settings with the overrides in them;
    * `override_exact`: where the two agree, and when the parameters are valid;
    * `solve_of_null_noise`, `solve_of_tries_not_int`: searches that fail although their overrides
      were accepted.
-/
namespace FlipSat

namespace Parameters

variable {p p' q : Parameters} {K : List (String × Value)} {n : String} {d v w : Value}

/-! ## Parameters by name -/

/-- There is a parameter with this name and standard value. -/
def Standard (n : String) (d : Value) : Prop := (n, d) ∈ entries {}

theorem forall_standard {P : String → Value → Prop} : (∀ n d, Standard n d → P n d) ↔
    P "noise_level" (.int 10) ∧ P "noise_start" .null ∧ P "anneal_flips" (.int 0) ∧
      P "max_flips" (.int 100000) ∧ P "max_tries" (.int 1) ∧ P "timeout" .null ∧
      P "progress_interval" (.int 1000) ∧ P "check_consistency" (.bool false) := by
  simp [Standard, entries, or_imp, forall_and]

theorem Standard.isPlainName : ∀ n d, Standard n d → IsPlainName n :=
  forall_standard.mpr (by decide)

theorem lookup_put? (h : p.put? n v = some p') {m : String} :
    p'.entries.lookup m = if m = n then some v else p.entries.lookup m := by
  unfold put? at h
  split at h <;> cases h
  all_goals
    split_ifs with hm
    · subst hm
      rfl
    · simp [entries, List.lookup_cons, beq_eq_false_iff_ne.mpr hm]

theorem put?_isSome_iff : (p.put? n v).isSome ↔ ∃ d, Standard n d := by
  unfold put?
  split
  all_goals simp_all [Standard, entries]

/-- Parameters that no override names stay, and the other ones are as they were given. -/
theorem lookup_putAll (h : p.putAll K = .ok p') :
    (∀ n, n ∉ K.map Prod.fst → p'.entries.lookup n = p.entries.lookup n) ∧
      ((K.map Prod.fst).Nodup → ∀ e ∈ K, p'.entries.lookup e.1 = some e.2) := by
  induction K generalizing p with
  | nil =>
    obtain rfl : p = p' := Except.ok.inj h
    exact ⟨fun _ _ => rfl, fun _ => nofun⟩
  | cons e K ih =>
    obtain ⟨m, v⟩ := e
    rw [putAll] at h
    split at h
    · next q hq =>
      obtain ⟨hkept, hgiven⟩ := ih h
      refine ⟨fun n hn => ?_, fun hK => ?_⟩
      · rw [List.map_cons, List.mem_cons, not_or] at hn
        rw [hkept n hn.2, lookup_put? hq, if_neg hn.1]
      · obtain ⟨hfresh, hK⟩ := List.nodup_cons.mp hK
        refine List.forall_mem_cons.mpr ⟨?_, hgiven hK⟩
        rw [hkept m hfresh, lookup_put? hq, if_pos rfl]
    · cases h

theorem putAll_isOk_iff : (∃ p', p.putAll K = .ok p') ↔ ∀ e ∈ K, ∃ d, Standard e.1 d := by
  induction K generalizing p with
  | nil => exact ⟨fun _ => nofun, fun _ => ⟨p, rfl⟩⟩
  | cons e K ih =>
    obtain ⟨n, v⟩ := e
    rw [List.forall_mem_cons, ← put?_isSome_iff (p := p) (v := v), putAll]
    cases hput : p.put? n v with
    | none => simp
    | some q => simpa using ih

/-! ## Valid parameters by name -/

/-- The check of settings for the parameter with a name. -/
def checkOf (n : String) : Value → Bool :=
  match n with
  | "noise_level" | "noise_start" => Settings.isPercentage
  | "anneal_flips" | "progress_interval" => Settings.isNonNegative
  | "max_flips" | "max_tries" => Settings.isPositive
  | "timeout" => Settings.isTimeout
  | _ => fun _ => true

/-- What a search can use as the parameter with a name. -/
def Fits (n : String) (v : Value) : Prop := checkOf n v = true ∧ (n = "noise_level" → v ≠ .null)

theorem fits_noiseLevel_iff : Fits "noise_level" v ↔ ∃ k : Percent, v = .int k.val := by
  show Settings.isPercentage v = true ∧ (_ → v ≠ .null) ↔ _
  rw [Settings.isPercentage_iff]
  constructor
  · rintro ⟨rfl | hk, hne⟩
    · exact absurd rfl (hne rfl)
    · exact hk
  · rintro ⟨k, rfl⟩
    exact ⟨.inr ⟨k, rfl⟩, fun _ => nofun⟩

theorem fits_iff_checkOf (hn : n ≠ "noise_level") : Fits n v ↔ checkOf n v = true :=
  and_iff_left fun h => absurd h hn

theorem valid_iff_fits :
    p.Valid ↔ ∀ n d, Standard n d → ∀ v, p.entries.lookup n = some v → Fits n v := by
  have hone : ∀ {n : String} {u : Value}, p.entries.lookup n = some u →
      ((∀ v, p.entries.lookup n = some v → Fits n v) ↔ Fits n u) := by
    intro n u hu
    rw [hu]
    simp
  rw [forall_standard, hone rfl, hone rfl, hone rfl, hone rfl, hone rfl, hone rfl, hone rfl,
    hone rfl, fits_noiseLevel_iff, fits_iff_checkOf (by decide), fits_iff_checkOf (by decide),
    fits_iff_checkOf (by decide), fits_iff_checkOf (by decide), fits_iff_checkOf (by decide),
    fits_iff_checkOf (by decide), fits_iff_checkOf (by decide)]
  simp only [checkOf, Settings.isPercentage_iff, Settings.isPositive_iff,
    Settings.isNonNegative_iff, Settings.isTimeout_iff]
  exact ⟨fun h => ⟨h.noiseLevel, h.noiseStart, h.annealFlips, h.maxFlips, h.maxTries, h.timeout,
      h.progressInterval, rfl⟩,
    fun ⟨h1, h2, h3, h4, h5, h6, h7, _⟩ => ⟨h1, h2, h3, h4, h5, h6, h7⟩⟩

/-- What passes for a parameter other than the wish for checks is a single value and no text. -/
theorem single_of_checkOf : ∀ n d, Standard n d → n ≠ "check_consistency" → ∀ v,
    checkOf n v = true → v.isSingle = true ∧ ∀ t, v ≠ .text t := by
  refine forall_standard.mpr ⟨?_, ?_, ?_, ?_, ?_, ?_, ?_, fun h => absurd rfl h⟩
  all_goals
    intro _ v hv
    cases v <;> first | exact ⟨rfl, nofun⟩ | cases hv

/-! ## Settings with overrides in them -/

variable {γ : Type} [SettingsLibrary γ] {s : Settings γ} {c : γ}

theorem lookup_ofSettings (h : ofSettings s = .ok q) : ∀ n d, Standard n d →
    ∃ w, q.entries.lookup n = some w ∧ s.get ("solver." ++ n) d = .ok w := by
  obtain ⟨h1, h2, h3, h4, h5, h6, h7, h8⟩ := ofSettings_eq_ok_iff.mp h
  exact forall_standard.mpr ⟨⟨_, rfl, h1⟩, ⟨_, rfl, h2⟩, ⟨_, rfl, h3⟩, ⟨_, rfl, h4⟩, ⟨_, rfl, h5⟩,
    ⟨_, rfl, h6⟩, ⟨_, rfl, h7⟩, ⟨_, rfl, h8⟩⟩

theorem accepts_of_validate (h : Settings.validate c = .ok ()) : ∀ n d, Standard n d →
    n ≠ "check_consistency" → Settings.Accepts c ("solver." ++ n) (checkOf n) := by
  obtain ⟨hlevel, hstart, hflips, htries, htimeout, hanneal, hinterval, -⟩ :=
    Settings.validate_eq_ok_iff.mp h
  exact forall_standard.mpr ⟨fun _ => hlevel, fun _ => hstart, fun _ => hanneal, fun _ => hflips,
    fun _ => htries, fun _ => htimeout, fun _ => hinterval, fun hne => absurd rfl hne⟩

/-- Settings into which a value was merged, if that was not refused. -/
theorem update_eq_none_iff : (s.update v).2 = none ↔
    ∃ c, SettingsLibrary.mergeValue s.config v = .ok c ∧ Settings.validate c = .ok () := by
  unfold Settings.update
  cases hm : SettingsLibrary.mergeValue s.config v with
  | error r => simp
  | ok c =>
    have hnewest : (s.make c).document (s.make c).newest = c := if_pos rfl
    dsimp only
    unfold Settings.commit
    rw [hnewest]
    cases hc : Settings.validate c <;> simp [hc]

theorem config_update (hm : SettingsLibrary.mergeValue s.config v = .ok c)
    (hc : Settings.validate c = .ok ()) : (s.update v).1.config = c := by
  have hnewest : (s.make c).document (s.make c).newest = c := if_pos rfl
  unfold Settings.update Settings.commit
  rw [hm]
  dsimp only
  rw [hnewest, hc]
  exact hnewest

/-- Overrides are accepted when they name parameters and can be merged into the settings. -/
theorem override_eq_ok_iff : override s K = .ok p ↔ ∃ q, ofSettings s = .ok q ∧
    q.putAll K = .ok p ∧ (K = [] ∨ (s.update (asUpdate K)).2 = none) := by
  unfold override
  simp only [bind_eq_ok_iff, mapError_eq_ok_iff]
  refine exists_congr fun q => and_congr_right fun _ => ?_
  constructor
  · rintro ⟨p', hput, h⟩
    split at h
    · obtain ⟨c, hc, h⟩ := bind_eq_ok_iff.mp h
      obtain ⟨hvalid, h⟩ := check_bind_eq_ok_iff.mp h
      obtain rfl : p' = p := Except.ok.inj h
      exact ⟨hput, .inr (update_eq_none_iff.mpr ⟨c, mapError_eq_ok_iff.mp hc, hvalid⟩)⟩
    · next hempty =>
      obtain rfl : p' = p := Except.ok.inj h
      exact ⟨hput, .inl (by simpa using hempty)⟩
  · rintro ⟨hput, hK⟩
    refine ⟨p, hput, ?_⟩
    split
    · next hne =>
      obtain ⟨c, hc, hvalid⟩ := update_eq_none_iff.mp (hK.resolve_left (by simpa using hne))
      simp only [hc, hvalid, Except.mapError, bind, Except.bind]
      rfl
    · rfl

/-! ## Two ways of overriding -/

/-- The settings have a single value for a parameter, or none. -/
def Plain (s : Settings γ) (n : String) : Prop :=
  ∃ root es, Holds s.config root ∧ root.section? "solver" = some es ∧
    ∀ v, Entries.get? es (.text n) = some v → v.isSingle = true

section Merged

variable [LawfulLibrary γ] {m : γ}

theorem isPlainName_solver : IsPlainName "solver" := by decide

/-- A single value that was merged is read as it stands, and a table or a list as one. -/
theorem read_of_merge (hK : (K.map Prod.fst).Nodup)
    (hm : SettingsLibrary.mergeValue c (asUpdate K) = .ok m) (hn : Standard n d)
    (hv : (n, v) ∈ K) : v ≠ .foreign ∧
      (v.isSingle = true → ∀ default,
        Settings.read m ("solver." ++ n) default = .ok (if v.isNull then default else v)) ∧
      (v.isContainer = true → ∀ default,
        ∃ w, Settings.read m ("solver." ++ n) default = .ok w ∧ w.isContainer = true) := by
  have hname := Standard.isPlainName n d hn
  obtain ⟨hforeign, root, w, hroot, hw, hsingle, hcontainer⟩ :=
    LawfulLibrary.merge_given c m "solver" n v K hK hm hv
  refine ⟨hforeign, fun h default => ?_, fun h default => ?_⟩
  · obtain rfl := hsingle h
    exact Settings.read_single hroot isPlainName_solver hname hw h default
  · exact Settings.read_container hroot isPlainName_solver hname hw (hcontainer h) default

/-- An override that was merged passes its check itself, unless it is a text. -/
theorem checkOf_of_merge (hK : (K.map Prod.fst).Nodup)
    (hm : SettingsLibrary.mergeValue c (asUpdate K) = .ok m) (hvalid : Settings.validate m = .ok ())
    (hn : Standard n d) (hne : n ≠ "check_consistency") (hv : (n, v) ∈ K)
    (htext : ∀ t, v ≠ .text t) : checkOf n v = true := by
  obtain ⟨hforeign, hsingle, hcontainer⟩ := read_of_merge hK hm hn hv
  obtain ⟨w, hw, haccepts⟩ := accepts_of_validate hvalid n d hn hne
  have hself : v.isSingle = true → checkOf n v = true := by
    intro h
    have hread : (if v.isNull then Value.null else v) = v := by cases v <;> rfl
    have heq := (hsingle h .null).symm.trans hw
    rw [hread] at heq
    exact Except.ok.inj heq ▸ haccepts
  have hno : v.isContainer = false := by
    by_contra h
    obtain ⟨u, hu, hcontainer⟩ := hcontainer (by simpa using h) .null
    obtain rfl := Except.ok.inj (hu.symm.trans hw)
    rw [Value.isContainer_of_isSingle (single_of_checkOf n d hn hne u haccepts).1] at hcontainer
    cases hcontainer
  cases v with
  | text t => exact absurd rfl (htext t)
  | foreign => exact absurd rfl hforeign
  | list | tuple | table => cases hno
  | null | bool | int | real | bytes | path => exact hself rfl

/-- What is read of an override is the override itself, unless it is a text, or it is null and there
    is another standard value. -/
theorem read_eq_self_iff (hK : (K.map Prod.fst).Nodup)
    (hm : SettingsLibrary.mergeValue c (asUpdate K) = .ok m) (hvalid : Settings.validate m = .ok ())
    (hn : Standard n d) (hne : n ≠ "check_consistency") (hv : (n, v) ∈ K) :
    Settings.read m ("solver." ++ n) d = .ok v ↔
      (∀ t, v ≠ .text t) ∧ (v = .null → d = .null) := by
  constructor
  · intro hread
    obtain ⟨w, haccepts, hw⟩ := (accepts_of_validate hvalid n d hn hne).read d
    have heq : v = if w.isNull then d else w := Except.ok.inj (hread.symm.trans hw)
    have hd : ∀ t, d ≠ .text t := by
      have hstandard : ∀ n d, Standard n d → ∀ t, d ≠ Value.text t :=
        forall_standard.mpr ⟨nofun, nofun, nofun, nofun, nofun, nofun, nofun, nofun⟩
      exact hstandard n d hn
    have htext := (single_of_checkOf n d hn hne w haccepts).2
    cases w with
    | null =>
      obtain rfl : v = d := heq
      exact ⟨hd, id⟩
    | text t => exact absurd rfl (htext t)
    | bool | int | real | bytes | path | list | tuple | table | foreign =>
      subst heq
      exact ⟨nofun, nofun⟩
  · rintro ⟨htext, hnull⟩
    have hcheck := checkOf_of_merge hK hm hvalid hn hne hv htext
    rw [(read_of_merge hK hm hn hv).2.1 (single_of_checkOf n d hn hne v hcheck).1]
    by_cases h : v = .null
    · subst h
      rw [hnull rfl]
      rfl
    · cases v <;> first | rfl | exact absurd rfl h

/-- A parameter for which the settings have a single value, or none, is read as before if no
    override names it. -/
theorem get_update_of_not_mem (hK : (K.map Prod.fst).Nodup) (hn : Standard n d)
    (hplain : Plain s n) (hout : n ∉ K.map Prod.fst) :
    (s.update (asUpdate K)).1.get ("solver." ++ n) d = s.get ("solver." ++ n) d := by
  have hname := Standard.isPlainName n d hn
  by_cases hfault : (s.update (asUpdate K)).2 = none
  · obtain ⟨m, hm, hvalid⟩ := update_eq_none_iff.mp hfault
    obtain ⟨root, es, hroot, hes, hsingle⟩ := hplain
    unfold Settings.get
    rw [config_update hm hvalid]
    exact Settings.read_merge_of_not_mem hK hm hroot isPlainName_solver hname hes hsingle
      (fun _ => hout) d
  · have hconfig : (s.update (asUpdate K)).1.config = s.config :=
      Settings.config_of_refused (c := .update (asUpdate K)) hfault
    unfold Settings.get
    rw [hconfig]

/-! ## Accepted overrides -/

/-- An override that can be accepted though no search can use it: a text where a number is needed,
    which can only be a reference, or null as the noise. -/
def Unusable (n : String) (v : Value) : Prop :=
  n ≠ "check_consistency" ∧ (∃ t, v = .text t) ∨ n = "noise_level" ∧ v = .null

/-- A parameter with accepted overrides fits, or it is an override that no search can use. -/
theorem fits_or_unusable (hs : Settings.validate s.config = .ok ()) (hK : (K.map Prod.fst).Nodup)
    (h : override s K = .ok p) (hn : Standard n d) (hv : p.entries.lookup n = some v) :
    Fits n v ∨ (n, v) ∈ K ∧ Unusable n v := by
  obtain ⟨q, hq, hput, hmerged⟩ := override_eq_ok_iff.mp h
  obtain ⟨hkept, hgiven⟩ := lookup_putAll hput
  by_cases hmem : n ∈ K.map Prod.fst
  · obtain ⟨e, he, rfl⟩ := List.mem_map.mp hmem
    obtain rfl : e.2 = v := Option.some.inj ((hgiven hK e he).symm.trans hv)
    obtain ⟨c, hc, hvalid⟩ := update_eq_none_iff.mp (hmerged.resolve_left (List.ne_nil_of_mem he))
    by_cases hu : Unusable e.1 e.2
    · exact .inr ⟨he, hu⟩
    · refine .inl ⟨?_, fun hlevel hnull => hu (.inr ⟨hlevel, hnull⟩)⟩
      by_cases hne : e.1 = "check_consistency"
      · rw [hne]
        rfl
      · exact checkOf_of_merge hK hc hvalid hn hne he fun t ht => hu (.inl ⟨hne, t, ht⟩)
  · rw [hkept n hmem] at hv
    exact .inl (valid_iff_fits.mp (valid_ofSettings hs hq) n d hn v hv)

/-- Accepted overrides leave valid parameters if none of them is unusable. -/
theorem valid_override_iff (hs : Settings.validate s.config = .ok ())
    (hK : (K.map Prod.fst).Nodup) (h : override s K = .ok p) :
    p.Valid ↔ ∀ e ∈ K, ¬ Unusable e.1 e.2 := by
  rw [valid_iff_fits]
  constructor
  · rintro hfits ⟨n, v⟩ he hu
    obtain ⟨q, -, hput, -⟩ := override_eq_ok_iff.mp h
    obtain ⟨d, hn⟩ := putAll_isOk_iff.mp ⟨p, hput⟩ _ he
    obtain ⟨hcheck, hnull⟩ := hfits n d hn v ((lookup_putAll hput).2 hK _ he)
    rcases hu with ⟨hne, t, rfl⟩ | ⟨rfl, rfl⟩
    · exact (single_of_checkOf n d hn hne _ hcheck).2 t rfl
    · exact hnull rfl rfl
  · intro husable n d hn v hv
    rcases fits_or_unusable hs hK h hn hv with hfits | ⟨he, hu⟩
    · exact hfits
    · exact absurd hu (husable _ he)

/-- Overrides of valid settings are accepted when they name parameters and can be merged into the
    settings. A parameter that is overridden is kept as it was given, whereas the settings with the
    overrides merged give the standard value for null, and never a text where a number is needed; a
    parameter that is not overridden is that of the settings. Hence the parameters are valid unless
    an override is a text where a number is needed, or null as the noise. -/
theorem override_exact (hs : Settings.validate s.config = .ok ()) (hK : (K.map Prod.fst).Nodup) :
    ((∃ p, override s K = .ok p) ↔ (∃ q, ofSettings s = .ok q) ∧
      (∀ e ∈ K, ∃ d, Standard e.1 d) ∧ (K = [] ∨ (s.update (asUpdate K)).2 = none)) ∧
    ∀ p, override s K = .ok p →
      (∀ n d, Standard n d →
        let merged := (s.update (asUpdate K)).1.get ("solver." ++ n) d
        (∀ v, (n, v) ∈ K → p.entries.lookup n = some v ∧
          (v.isSingle = true → merged = .ok (if v.isNull then d else v)) ∧
          (n ≠ "check_consistency" →
            (merged = .ok v ↔ (∀ t, v ≠ .text t) ∧ (v = .null → d = .null)))) ∧
        (n ∉ K.map Prod.fst → ∃ w, p.entries.lookup n = some w ∧
          s.get ("solver." ++ n) d = .ok w ∧ (Plain s n → merged = .ok w))) ∧
      (p.Valid ↔ ∀ e ∈ K, ¬ Unusable e.1 e.2) := by
  refine ⟨?_, fun p h => ⟨fun n d hn => ⟨fun v hv => ?_, fun hout => ?_⟩, ?_⟩⟩
  · constructor
    · rintro ⟨p, h⟩
      obtain ⟨q, hq, hput, hmerged⟩ := override_eq_ok_iff.mp h
      exact ⟨⟨q, hq⟩, putAll_isOk_iff.mp ⟨p, hput⟩, hmerged⟩
    · rintro ⟨⟨q, hq⟩, hknown, hmerged⟩
      obtain ⟨p, hput⟩ := putAll_isOk_iff.mpr hknown
      exact ⟨p, override_eq_ok_iff.mpr ⟨q, hq, hput, hmerged⟩⟩
  · obtain ⟨q, hq, hput, hmerged⟩ := override_eq_ok_iff.mp h
    obtain ⟨c, hc, hvalid⟩ := update_eq_none_iff.mp (hmerged.resolve_left (List.ne_nil_of_mem hv))
    unfold Settings.get
    rw [config_update hc hvalid]
    exact ⟨(lookup_putAll hput).2 hK _ hv,
      fun hsingle => (read_of_merge hK hc hn hv).2.1 hsingle d,
      fun hne => read_eq_self_iff hK hc hvalid hn hne hv⟩
  · obtain ⟨q, hq, hput, -⟩ := override_eq_ok_iff.mp h
    obtain ⟨w, hw, hget⟩ := lookup_ofSettings hq n d hn
    refine ⟨w, ((lookup_putAll hput).1 n hout).trans hw, hget, fun hplain => ?_⟩
    exact (get_update_of_not_mem hK hn hplain hout).trans hget
  · exact valid_override_iff hs hK h

end Merged

/-- Null as the noise and a reference as the number of flips: both are accepted, and only settings
    into which they are merged give numbers for them. -/
theorem override_exact_of_null_and_reference :
    let K := [("noise_level", .null), ("max_flips", .text "$\x7bsolver.max_tries\x7d")]
    ∃ (s : Settings Document) (p : Parameters), Settings.validate s.config = .ok () ∧
      override s K = .ok p ∧ ¬ p.Valid ∧
      p.entries.lookup "noise_level" = some .null ∧
      (s.update (asUpdate K)).1.get "solver.noise_level" (.int 10) = .ok (.int 10) ∧
      p.entries.lookup "max_flips" = some (.text "$\x7bsolver.max_tries\x7d") ∧
      (s.update (asUpdate K)).1.get "solver.max_flips" (.int 100000) ≠
        .ok (.text "$\x7bsolver.max_tries\x7d") := by
  intro K
  have hvalid := Settings.validate_standard (d := (⟨Settings.standard⟩ : Document)) rfl
  let s : Settings Document := ⟨fun _ => ⟨Settings.standard⟩, 1, 0, Nat.one_pos⟩
  have hsome : (override s K).toOption.isSome = true := by decide +kernel
  obtain ⟨p, hp⟩ := Option.isSome_iff_exists.mp hsome
  have hp := toOption_eq_some_iff.mp hp
  obtain ⟨-, haccepted⟩ := override_exact (s := s) hvalid (K := K) (by decide)
  obtain ⟨hread, hparameters⟩ := haccepted p hp
  have hlevel := (hread "noise_level" (.int 10) (by simp [Standard, entries])).1 .null (by simp [K])
  have hflips := (hread "max_flips" (.int 100000) (by simp [Standard, entries])).1 _
    (List.mem_cons_of_mem _ List.mem_cons_self)
  refine ⟨s, p, hvalid, hp, ?_, hlevel.1, hlevel.2.1 rfl, hflips.1, ?_⟩
  · intro hv
    exact hparameters.mp hv _ List.mem_cons_self (.inr ⟨rfl, rfl⟩)
  · intro heq
    exact ((hflips.2.2 (by decide)).mp heq).1 _ rfl

end Parameters

/-! ## Searches -/

namespace Solver

variable {σ : Type} [RandomSource σ] {s s' : Solver σ} {timeout : Value} {b : Budget}

/-- No noise is refused as late as at the start of the first try. -/
theorem solve_of_null_noise (hlevel : s.parameters.noiseLevel = .null)
    (hstart : s.parameters.noiseStart = .null) (hb : s.ready timeout = (s', .ok b))
    (htries : b.tries ≠ 0) :
    (s.solve timeout).result = .error (.ofConfig (.noiseNotInteger .null)) := by
  obtain ⟨-, hp, -⟩ := ready_inv hb
  obtain ⟨k, hk⟩ := Nat.exists_eq_succ_of_ne_zero htries
  have hnoise : s'.parameters.noiseAt (.int 0) = .ok .null := by
    rw [hp]
    simp [Parameters.noiseAt, hstart, hlevel, Value.isNull]
  have hrefused (r : Search σ) :
      s'.startTry b.deadline r = .error (.ofConfig (.noiseNotInteger .null)) := by
    unfold startTry Attempt.start Attempt.build attempt
    simp only [bind, Except.bind, hnoise, Problem.build, Percent.ofValue]
  unfold solve
  simp only [hb, hk, tryUpTo, oneTry, hrefused]

/-- A number of tries that is no integer stops every search before its first try. -/
theorem solve_of_tries_not_int (h : ∀ n, s.parameters.maxTries ≠ .int n) :
    ∃ e, (s.solve timeout).result = .error e := by
  unfold solve
  cases hr : s.ready timeout with
  | mk s' ready =>
    cases ready with
    | error e => exact ⟨e, rfl⟩
    | ok b =>
      obtain ⟨-, -, -, -, htries⟩ := ready_inv hr
      unfold triesOf at htries
      split at htries
      · next n hn => exact absurd hn (h n)
      · cases htries

end Solver

end FlipSat
