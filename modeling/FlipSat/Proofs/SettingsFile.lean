import FlipSat.CommandLine.Basic
import FlipSat.Proofs.LineBreaks
import FlipSat.Proofs.Override

/-
  FlipSat: what becomes of a file of settings.
  A file gives valid settings, or it is refused as unusable, or its fault is one that nobody has an
  answer to. `Escapes` lists the faults of the last sort by where they arise: while the file is
  read, while it is merged into the defaults, while a value is read for its check, or because an
  invalid integer is too long for a message. `Answers` says which contents lead to what: a text that
  is not well formed and a list in place of a table escape. `load_exact` puts both together with
  what the command makes of them.
-/
namespace FlipSat

/-- Is it a fault of settings, which callers have an answer to? -/
def Fault.isConfig : Fault → Bool
  | .config _ => true
  | _ => false

namespace Settings

variable {γ : Type} [SettingsLibrary γ] {d m : γ} {s : Settings γ} {key path : String}
  {accepts : Value → Bool} {refusal : Value → ConfigFault} {default v : Value} {e : Fault}
  {tree : FileTree} {r : Raised}

/-! ## Faults of checks -/

theorem read_eq_error_iff : read d key default = .error e ↔ ∃ r,
    SettingsLibrary.select d key = .error r ∧ r.isAmong [.settings, .key] = false ∧
      e = .raised r := by
  unfold read
  cases SettingsLibrary.select d key with
  | ok v => cases v <;> simp
  | error r =>
    cases hr : r.isAmong [.settings, .key] with
    | true => simp [hr]
    | false =>
      simp only [hr, Bool.false_eq_true, if_false, Except.error.injEq]
      constructor
      · rintro rfl
        exact ⟨r, rfl, hr, rfl⟩
      · rintro ⟨_, rfl, -, rfl⟩
        rfl

/-- A check fails because the value cannot be read, or because it is refused. -/
theorem check_eq_error_iff : check d key accepts refusal = .error e ↔
    read d key .null = .error e ∨
      ∃ v, read d key .null = .ok v ∧ accepts v = false ∧ e = .ofConfig (refusal v) := by
  unfold check
  cases hread : read d key .null with
  | error x => simp [bind, Except.bind]
  | ok v =>
    cases haccepts : accepts v with
    | true => simp [bind, Except.bind, haccepts]
    | false =>
      simp only [bind, Except.bind, haccepts, Bool.false_eq_true, if_false, Except.error.injEq,
        reduceCtorEq, false_or, Except.ok.injEq]
      constructor
      · rintro rfl
        exact ⟨v, rfl, haccepts, rfl⟩
      · rintro ⟨_, rfl, -, rfl⟩
        rfl

/-- The keys of the values that are checked. -/
def checkedKeys : List String := [
  "solver.noise_level", "solver.noise_start", "solver.max_flips", "solver.max_tries",
  "solver.timeout", "solver.anneal_flips", "solver.progress_interval", "logging.level",
  "logging.trace_format"]

/-- Why a document is not valid: a checked value could not be read, or it was refused. -/
theorem validate_error_inv (h : validate d = .error e) : ∃ key ∈ checkedKeys,
    read d key .null = .error e ∨
      ∃ v c, read d key .null = .ok v ∧ c.value? = some v ∧ e = .ofConfig c := by
  have hcheck : ∀ {key accepts refusal}, check d key accepts refusal = .error e →
      key ∈ checkedKeys → (∀ v, (refusal v).value? = some v) → ∃ key ∈ checkedKeys,
        read d key .null = .error e ∨
          ∃ v c, read d key .null = .ok v ∧ c.value? = some v ∧ e = .ofConfig c := by
    intro key accepts refusal h hkey hvalue
    rcases check_eq_error_iff.mp h with h | ⟨v, hv, -, he⟩
    · exact ⟨key, hkey, .inl h⟩
    · exact ⟨key, hkey, .inr ⟨v, refusal v, hv, hvalue v, he⟩⟩
  simp only [validate, check_bind_eq_error_iff] at h
  rcases h with h | ⟨-, h | ⟨-, h | ⟨-, h | ⟨-, h | ⟨-, h | ⟨-, h | ⟨-, h | ⟨-, h⟩⟩⟩⟩⟩⟩⟩⟩
  all_goals exact hcheck h (by decide) fun _ => rfl

theorem ofConfig_eq (c : ConfigFault) : Fault.ofConfig c = .config c ∨
    ∃ v, c.value? = some v ∧ v.isWritable = false ∧ Fault.ofConfig c = .tooManyDigits := by
  unfold Fault.ofConfig
  cases hvalue : c.value? with
  | none => simp
  | some v =>
    cases hv : v.isWritable with
    | true => simp [hv]
    | false => exact .inr ⟨v, rfl, hv, by simp [hv]⟩

/-! ## Faults that escape -/

/-- The families of faults of a file that are reported as faults of settings. -/
def fileFamilies : List FaultFamily := [.settings, .system, .value]

/-- The faults of a file that come out as they are, by where they arise. -/
inductive Escapes (γ : Type) [SettingsLibrary γ] (tree : FileTree) (path : String) : Fault → Prop
  /-- The file cannot be read, for a reason in none of the families. -/
  | unread {r : Raised} (hexists : tree.exists? path = true)
    (hload : (SettingsLibrary.load tree path : Except Raised γ) = .error r)
    (hout : r.isAmong fileFamilies = false) : Escapes γ tree path (.raised r)
  /-- What the file holds cannot be merged into the defaults, for a reason in none of the
      families. -/
  | unmerged {s : Settings γ} {d : γ} {r : Raised} (hexists : tree.exists? path = true)
    (hnew : new = .ok s) (hload : SettingsLibrary.load tree path = .ok d)
    (hmerge : SettingsLibrary.merge s.config d = .error r)
    (hout : r.isAmong fileFamilies = false) : Escapes γ tree path (.raised r)
  /-- A value cannot be read for its check, and not because it is missing or refers to nothing. -/
  | unchecked {s : Settings γ} {d m : γ} {r : Raised} {key : String}
    (hexists : tree.exists? path = true) (hnew : new = .ok s)
    (hload : SettingsLibrary.load tree path = .ok d)
    (hmerge : SettingsLibrary.merge s.config d = .ok m)
    (hselect : SettingsLibrary.select m key = .error r)
    (hout : r.isAmong [.settings, .key] = false) (hinvalid : validate m = .error (.raised r)) :
    Escapes γ tree path (.raised r)
  /-- The first invalid value holds an integer that no message can show. -/
  | unwritable {s : Settings γ} {d m : γ} {key : String} {v : Value}
    (hexists : tree.exists? path = true) (hnew : new = .ok s)
    (hload : SettingsLibrary.load tree path = .ok d)
    (hmerge : SettingsLibrary.merge s.config d = .ok m) (hread : read m key .null = .ok v)
    (hlong : v.isWritable = false) (hinvalid : validate m = .error .tooManyDigits) :
    Escapes γ tree path .tooManyDigits

theorem isConfig_of_escapes (h : Escapes γ tree path e) : e.isConfig = false := by
  cases h <;> rfl

theorem isAmong_mono {fs gs : List FaultFamily} (hsub : fs ⊆ gs) (h : r.isAmong fs = true) :
    r.isAmong gs = true := by
  obtain ⟨f, hf, hfs⟩ := List.any_eq_true.mp h
  have hmem : f ∈ gs := hsub (List.contains_iff_mem.mp hfs)
  exact List.any_eq_true.mpr ⟨f, hf, List.contains_iff_mem.mpr hmem⟩

theorem isAmong_of_families {q : Raised} (h : r.families = q.families) (fs : List FaultFamily) :
    r.isAmong fs = q.isAmong fs := by
  rw [Raised.isAmong, h, Raised.isAmong]

theorem report_of_isAmong {fs : List FaultFamily} (hsub : fs ⊆ fileFamilies)
    (h : r.isAmong fs = true) :
    report fileFamilies (.unusableFile path) r = .config (.unusableFile path r.message) := by
  simp [report, isAmong_mono hsub h]

theorem report_of_not_isAmong (h : r.isAmong fileFamilies = false) :
    report fileFamilies (.unusableFile path) r = .raised r := by
  simp [report, h]

theorem report_of_families (h : r.families = []) :
    report fileFamilies (.unusableFile path) r = .raised r :=
  report_of_not_isAmong (by simp [Raised.isAmong, h])

section Load

variable (hnew : new = .ok s) (hexists : tree.exists? path = true)

include hnew

theorem load_of_not_exists (hexists : tree.exists? path = false) :
    (load tree path : Except Fault (Settings γ)) = .error (.config (.missingFile path)) := by
  simp only [load, hnew, loadOnto, hexists, bind, Except.bind]
  rfl

include hexists

theorem load_of_raised
    (h : SettingsLibrary.load tree path >>= SettingsLibrary.merge s.config = .error r) :
    (load tree path : Except Fault (Settings γ)) =
      .error (report fileFamilies (.unusableFile path) r) := by
  simp only [load, hnew, loadOnto, hexists, bind, Except.bind] at h ⊢
  simp only [h, Bool.not_true, Bool.false_eq_true, if_false]
  rfl

/-- What is loaded is what is committed, and it is committed if it is valid. -/
theorem load_of_merged
    (h : SettingsLibrary.load tree path >>= SettingsLibrary.merge s.config = .ok m) :
    (∀ e, validate m = .error e → (load tree path : Except Fault (Settings γ)) = .error e) ∧
      (validate m = .ok () → ∃ t : Settings γ, load tree path = .ok t ∧ t.config = m) := by
  have hnewest : (s.make m).document (s.make m).newest = m := if_pos rfl
  have hload : (load tree path : Except Fault (Settings γ)) = required (s.make m).commit := by
    simp only [load, hnew, loadOnto, hexists, bind, Except.bind] at h ⊢
    simp only [h, Bool.not_true, Bool.false_eq_true, if_false]
  unfold commit at hload
  rw [hnewest] at hload
  constructor
  · intro e he
    rw [hload, he]
    rfl
  · intro hvalid
    rw [hvalid] at hload
    exact ⟨_, hload, hnewest⟩

end Load

variable [LawfulLibrary γ]

omit [LawfulLibrary γ] in
theorem validate_of_load (h : load tree path = .ok s) : validate s.config = .ok () := by
  obtain ⟨s₀, -, h⟩ := bind_eq_ok_iff.mp h
  unfold required at h
  split at h
  · next t heq =>
    obtain rfl : t = s := Except.ok.inj h
    have happly : s₀.apply (.load tree path) = (t, none) := heq
    have hvalid := validate_of_apply (congrArg Prod.snd happly)
    rwa [happly] at hvalid
  · cases h

theorem load_of_escapes (h : Escapes γ tree path e) :
    (load tree path : Except Fault (Settings γ)) = .error e := by
  obtain ⟨s₀, hs₀, -⟩ := validate_new (γ := γ)
  cases h with
  | @unread r hexists hload hout =>
    rw [load_of_raised (s := s₀) (r := r) hs₀ hexists (by rw [hload]; rfl),
      report_of_not_isAmong hout]
  | @unmerged s d r hexists hnew hload hmerge hout =>
    rw [load_of_raised (r := r) hnew hexists (by rw [hload]; exact hmerge),
      report_of_not_isAmong hout]
  | @unchecked s d m r key hexists hnew hload hmerge hselect hout hinvalid =>
    exact (load_of_merged hnew hexists (by rw [hload]; exact hmerge)).1 _ hinvalid
  | @unwritable s d m key v hexists hnew hload hmerge hread hlong hinvalid =>
    exact (load_of_merged hnew hexists (by rw [hload]; exact hmerge)).1 _ hinvalid

/-- Every fault of a file that is not one of settings is accounted for. -/
theorem escapes_of_load (h : (load tree path : Except Fault (Settings γ)) = .error e)
    (hout : e.isConfig = false) : Escapes γ tree path e := by
  obtain ⟨s₀, hs₀, -⟩ := validate_new (γ := γ)
  have hraised : ∀ {r : Raised}, report fileFamilies (.unusableFile path) r = e →
      r.isAmong fileFamilies = false ∧ e = .raised r := by
    rintro r rfl
    unfold report at hout ⊢
    cases hr : r.isAmong fileFamilies with
    | true => simp [hr, Fault.isConfig] at hout
    | false => simp
  cases hexists : tree.exists? path with
  | false =>
    rw [load_of_not_exists hs₀ hexists] at h
    cases h
    cases hout
  | true =>
    cases hload : (SettingsLibrary.load tree path : Except Raised γ) with
    | error r =>
      rw [load_of_raised (r := r) hs₀ hexists (by rw [hload]; rfl)] at h
      obtain ⟨hr, rfl⟩ := hraised (Except.error.inj h)
      exact .unread hexists hload hr
    | ok d =>
      cases hmerge : SettingsLibrary.merge s₀.config d with
      | error r =>
        rw [load_of_raised (r := r) hs₀ hexists (by rw [hload]; exact hmerge)] at h
        obtain ⟨hr, rfl⟩ := hraised (Except.error.inj h)
        exact .unmerged hexists hs₀ hload hmerge hr
      | ok m =>
        obtain ⟨hrefused, haccepted⟩ :=
          load_of_merged hs₀ hexists (m := m) (by rw [hload]; exact hmerge)
        cases hinvalid : validate m with
        | ok =>
          obtain ⟨t, ht, -⟩ := haccepted hinvalid
          rw [ht] at h
          cases h
        | error x =>
          rw [hrefused x hinvalid] at h
          obtain rfl := Except.error.inj h
          obtain ⟨key, -, hread | ⟨v, c, hread, hvalue, rfl⟩⟩ := validate_error_inv hinvalid
          · obtain ⟨r, hselect, hr, rfl⟩ := read_eq_error_iff.mp hread
            exact .unchecked hexists hs₀ hload hmerge hselect hr hinvalid
          · rcases ofConfig_eq c with hc | ⟨w, hw, hlong, hc⟩
            · rw [hc] at hout
              cases hout
            · obtain rfl := Option.some.inj (hvalue.symm.trans hw)
              rw [hc] at hinvalid ⊢
              exact .unwritable hexists hs₀ hload hmerge hread hlong hinvalid

/-! ## Files with values for a search -/

section Merged

variable {K : List (String × Value)} {n : String}

open Parameters

variable (hd : Holds d standard) (hK : (K.map Prod.fst).Nodup)
  (hm : SettingsLibrary.mergeValue d (asUpdate K) = .ok m)

include hd hK hm

/-- The values of the section of the log are read as before. -/
theorem read_logging_of_merge (hn : IsPlainName n)
    (hv : standard.setting? "logging" n = some v) : read m ("logging." ++ n) .null = .ok v := by
  obtain ⟨es, hes, hget⟩ := Value.setting?_eq_some_iff.mp hv
  have hname : IsPlainName "logging" := by decide
  have hplain : ∀ w, Entries.get? es (.text n) = some w → w.isSingle = true := fun w hw =>
    isSingle_of_standard (Value.setting?_eq_some_iff.mpr ⟨es, hes, hw⟩)
  refine (read_merge_of_not_mem hK hm hd hname hn hes hplain (fun h => absurd h (by decide))
    .null).trans ?_
  refine (read_single hd hname hn hv (hplain v hget) .null).trans ?_
  cases v <;> rfl

/-- A value for a search is read as it was merged, or it is the default. -/
theorem read_solver_of_merge (hsingle : ∀ e ∈ K, e.2.isSingle = true) {c : Value}
    (hn : Standard n c) (hne : n ≠ "check_consistency") :
    ∃ v, read m ("solver." ++ n) .null = .ok v ∧
      ((n, v) ∈ K ∨ n ∉ K.map Prod.fst ∧ checkOf n v = true) := by
  by_cases hmem : n ∈ K.map Prod.fst
  · obtain ⟨⟨_, v⟩, he, rfl⟩ := List.mem_map.mp hmem
    refine ⟨v, ((read_of_merge hK hm hn he).2.1 (hsingle _ he) .null).trans ?_, .inl he⟩
    cases v <;> rfl
  · obtain ⟨v, hv, haccepts⟩ := accepts_of_validate (validate_standard hd) n c hn hne
    have hes : ∃ es, standard.section? "solver" = some es := ⟨_, rfl⟩
    obtain ⟨es, hes⟩ := hes
    have hplain : ∀ w, Entries.get? es (.text n) = some w → w.isSingle = true := fun w hw =>
      isSingle_of_standard (Value.setting?_eq_some_iff.mpr ⟨es, hes, hw⟩)
    refine ⟨v, Eq.trans ?_ hv, .inr ⟨hmem, haccepts⟩⟩
    exact read_merge_of_not_mem hK hm hd isPlainName_solver (Standard.isPlainName n c hn) hes
      hplain (fun _ => hmem) .null

/-- The defaults with values for a search in them are valid if each of these passes its check, and
    if not, a value is refused. -/
theorem validate_of_merge (hsingle : ∀ e ∈ K, e.2.isSingle = true) :
    (validate m = .ok () ↔ ∀ e ∈ K, (∃ c, Standard e.1 c) → checkOf e.1 e.2 = true) ∧
      ∀ e, validate m = .error e → ∃ c, e = .ofConfig c := by
  have hread := fun n c (hn : Standard n c) => read_solver_of_merge hd hK hm hsingle hn
  have hlevel : read m "logging.level" .null = .ok (.text "INFO") :=
    read_logging_of_merge hd hK hm (n := "level") (by decide) rfl
  have hformat : read m "logging.trace_format" .null = .ok (.text "json") :=
    read_logging_of_merge hd hK hm (n := "trace_format") (by decide) rfl
  refine ⟨⟨?_, ?_⟩, ?_⟩
  · rintro hvalid ⟨n, v⟩ he ⟨c, hn⟩
    by_cases hne : n = "check_consistency"
    · subst hne
      rfl
    · obtain ⟨w, hw, haccepts⟩ := accepts_of_validate hvalid n c hn hne
      have hv := (read_of_merge hK hm hn he).2.1 (hsingle _ he) .null
      obtain rfl : v = w := by
        have hself : (if v.isNull then Value.null else v) = v := by cases v <;> rfl
        rw [hself, hw] at hv
        exact (Except.ok.inj hv).symm
      exact haccepts
  · intro hchecks
    have haccepts : ∀ n c, Standard n c → n ≠ "check_consistency" →
        Accepts m ("solver." ++ n) (checkOf n) := by
      intro n c hn hne
      obtain ⟨v, hv, hmem | ⟨-, hcheck⟩⟩ := hread n c hn hne
      · exact ⟨v, hv, hchecks _ hmem ⟨c, hn⟩⟩
      · exact ⟨v, hv, hcheck⟩
    obtain ⟨h1, h2, h3, h4, h5, h6, h7, -⟩ := forall_standard.mp haccepts
    exact validate_eq_ok_iff.mpr ⟨h1 (by decide), h2 (by decide), h4 (by decide), h5 (by decide),
      h6 (by decide), h3 (by decide), h7 (by decide), ⟨_, hlevel, rfl⟩, ⟨_, hformat, rfl⟩⟩
  · intro e he
    have hok : ∀ key ∈ checkedKeys, ∃ v, read m key .null = .ok v := by
      have hsolver : ∀ n c, Standard n c → n ≠ "check_consistency" →
          ∃ v, read m ("solver." ++ n) .null = .ok v := fun n c hn hne =>
        let ⟨v, hv, _⟩ := hread n c hn hne
        ⟨v, hv⟩
      obtain ⟨h1, h2, h3, h4, h5, h6, h7, -⟩ := forall_standard.mp hsolver
      simp only [checkedKeys, List.forall_mem_cons]
      exact ⟨h1 (by decide), h2 (by decide), h4 (by decide), h5 (by decide), h6 (by decide),
        h3 (by decide), h7 (by decide), ⟨_, hlevel⟩, ⟨_, hformat⟩, nofun⟩
    obtain ⟨key, hkey, herror | ⟨v, c, -, -, rfl⟩⟩ := validate_error_inv he
    · obtain ⟨v, hv⟩ := hok key hkey
      rw [hv] at herror
      cases herror
    · exact ⟨c, rfl⟩

end Merged

/-! ## Contents -/

/-- What becomes of a file by what it holds; `parse` is what becomes of a YAML text. -/
structure Answers (γ : Type) [SettingsLibrary γ] (parse : String → Except Raised Value)
    (tree : FileTree) (path : String) : Prop where
  missing : tree.exists? path = false →
    (load tree path : Except Fault (Settings γ)) = .error (.config (.missingFile path))
  unreadable : ∀ e, tree.exists? path = true → tree.read path = .error e →
    ∃ why, (load tree path : Except Fault (Settings γ)) = .error (.config (.unusableFile path why))
  undecodable : ∀ bytes e, tree.read path = .ok bytes → Text.ofUtf8 bytes = .error e →
    (∃ why, (load tree path : Except Fault (Settings γ)) =
      .error (.config (.unusableFile path why))) ∨
    ∃ text q r, BeginsWith bytes text ∧ parse text = .error q ∧ r.families = q.families ∧
      (load tree path : Except Fault (Settings γ)) = .error (.raised r)
  /-- A text that is not well formed escapes: its fault is in none of the families. -/
  illFormed : ∀ text q, readText tree path = .ok text → parse text = .error q →
    q.isAmong fileFamilies = false → ∃ r, r.families = q.families ∧
      (load tree path : Except Fault (Settings γ)) = .error (.raised r)
  /-- A text with a value that cannot be made does not: its fault is one of a value. -/
  badValue : ∀ text q, readText tree path = .ok text → parse text = .error q →
    q.isAmong fileFamilies = true →
    ∃ why, (load tree path : Except Fault (Settings γ)) = .error (.config (.unusableFile path why))
  single : ∀ text v, readText tree path = .ok text → parse text = .ok v → v.isSingle = true →
    v ≠ .null → (∀ t, v ≠ .text t) →
    ∃ why, (load tree path : Except Fault (Settings γ)) = .error (.config (.unusableFile path why))
  /-- A list escapes. -/
  list : ∀ text items, readText tree path = .ok text → parse text = .ok (.list items) →
    (∀ v ∈ items, v.isSingle = true) →
    ∃ r, r.families = [] ∧ (load tree path : Except Fault (Settings γ)) = .error (.raised r)
  /-- A list in place of a section escapes. -/
  listSection : ∀ text a items, readText tree path = .ok text →
    parse text = .ok (.table [(.text a, .list items)]) → a ∈ ["solver", "problem", "logging"] →
    (∀ v ∈ items, v.isSingle = true) →
    ∃ r, r.families = [] ∧ (load tree path : Except Fault (Settings γ)) = .error (.raised r)
  /-- Single values for a search are taken if each of them passes its check. -/
  solver : ∀ text K, readText tree path = .ok text →
    parse text = .ok (.ofSections [("solver", K)]) → (K.map Prod.fst).Nodup →
    (∀ e ∈ K, IsPlainName e.1 ∧ e.2.isSingle = true) →
    ((∃ s : Settings γ, load tree path = .ok s) ↔
      ∀ e ∈ K, (∃ d, Parameters.Standard e.1 d) → Parameters.checkOf e.1 e.2 = true) ∧
    ∀ e, (load tree path : Except Fault (Settings γ)) = .error e → ∃ c, e = .ofConfig c

/-- A fault of reading the file, once it is there. -/
theorem load_of_unloaded (hexists : tree.exists? path = true)
    (h : (SettingsLibrary.load tree path : Except Raised γ) = .error r) :
    (load tree path : Except Fault (Settings γ)) =
      .error (report fileFamilies (.unusableFile path) r) := by
  obtain ⟨s₀, hs₀, -⟩ := holds_new (γ := γ)
  exact load_of_raised hs₀ hexists (by rw [h]; rfl)

section Contents

variable {parse : String → Except Raised Value} (hparse : FileLoader γ parse) {text : String}

include hparse

theorem load_of_unreadable {e : FileFault} (hexists : tree.exists? path = true)
    (hread : tree.read path = .error e) : ∃ why,
      (load tree path : Except Fault (Settings γ)) = .error (.config (.unusableFile path why)) := by
  obtain ⟨r, hr, hamong⟩ := hparse.unreadable tree path e hread
  refine ⟨r.message, ?_⟩
  rw [load_of_unloaded hexists hr, report_of_isAmong (by decide) hamong]

theorem load_of_undecodable {bytes : ByteArray} {e : Text.Utf8Fault}
    (hread : tree.read path = .ok bytes) (hutf : Text.ofUtf8 bytes = .error e) :
    (∃ why, (load tree path : Except Fault (Settings γ)) =
      .error (.config (.unusableFile path why))) ∨
    ∃ text q r, BeginsWith bytes text ∧ parse text = .error q ∧ r.families = q.families ∧
      (load tree path : Except Fault (Settings γ)) = .error (.raised r) := by
  obtain ⟨r, hr, hcase⟩ := hparse.undecodable tree path bytes e hread hutf
  have hload := load_of_unloaded (FileTree.exists?_of_read hread) hr
  cases hamong : r.isAmong fileFamilies with
  | true =>
    rw [report_of_isAmong (List.Subset.refl _) hamong] at hload
    exact .inl ⟨r.message, hload⟩
  | false =>
    rw [report_of_not_isAmong hamong] at hload
    rcases hcase with hvalue | ⟨text, q, hfront, hq, hfamilies⟩
    · rw [isAmong_mono (by decide) hvalue] at hamong
      cases hamong
    · exact .inr ⟨text, q, r, hfront, hq, hfamilies, hload⟩

/-- The fault of a text that cannot be parsed is reported by its families. -/
theorem load_of_unparsed {q : Raised} (hread : readText tree path = .ok text)
    (htext : parse text = .error q) : ∃ r, r.families = q.families ∧
      (load tree path : Except Fault (Settings γ)) =
        .error (report fileFamilies (.unusableFile path) r) := by
  obtain ⟨r, hr, hfamilies⟩ := hparse.illFormed tree path text q hread htext
  exact ⟨r, hfamilies, load_of_unloaded (exists?_of_readText hread) hr⟩

theorem load_of_single (hread : readText tree path = .ok text) (htext : parse text = .ok v)
    (hsingle : v.isSingle = true) (hnull : v ≠ .null) (hno : ∀ t, v ≠ .text t) : ∃ why,
      (load tree path : Except Fault (Settings γ)) = .error (.config (.unusableFile path why)) := by
  obtain ⟨r, hr, hamong⟩ := hparse.single tree path text v hread htext hsingle hnull hno
  refine ⟨r.message, ?_⟩
  rw [load_of_unloaded (exists?_of_readText hread) hr, report_of_isAmong (by decide) hamong]

theorem load_of_list {items : List Value} (hread : readText tree path = .ok text)
    (htext : parse text = .ok (.list items)) (hitems : ∀ v ∈ items, v.isSingle = true) :
    ∃ r, r.families = [] ∧
      (load tree path : Except Fault (Settings γ)) = .error (.raised r) := by
  obtain ⟨s₀, hs₀, hholds⟩ := holds_new (γ := γ)
  obtain ⟨d, hd, hlist⟩ := hparse.create_list items hitems
  obtain ⟨r, hr, hnone⟩ := hparse.merge_list s₀.config d _ items hholds hlist
  have hmerge : SettingsLibrary.load tree path >>= SettingsLibrary.merge s₀.config = .error r := by
    rw [hparse.list tree path text items hread htext, hd]
    exact hr
  refine ⟨r, hnone, ?_⟩
  rw [load_of_raised hs₀ (exists?_of_readText hread) hmerge, report_of_families hnone]

omit [LawfulLibrary γ] in
/-- A file with a table is merged as the table. -/
theorem load_merge_of_table {es : Entries} (hread : readText tree path = .ok text)
    (htext : parse text = .ok (.table es)) (d : γ) :
    SettingsLibrary.load tree path >>= SettingsLibrary.merge d =
      SettingsLibrary.mergeValue d (.table es) := by
  rw [hparse.table tree path text es hread htext]
  exact hparse.merge_created d es

theorem load_of_listSection {a : String} {items : List Value}
    (hread : readText tree path = .ok text)
    (htext : parse text = .ok (.table [(.text a, .list items)]))
    (ha : a ∈ ["solver", "problem", "logging"]) (hitems : ∀ v ∈ items, v.isSingle = true) :
    ∃ r, r.families = [] ∧
      (load tree path : Except Fault (Settings γ)) = .error (.raised r) := by
  obtain ⟨s₀, hs₀, hholds⟩ := holds_new (γ := γ)
  have hsection : ∃ es, standard.section? a = some es := by
    simp only [List.mem_cons, List.not_mem_nil, or_false] at ha
    rcases ha with rfl | rfl | rfl <;> exact ⟨_, rfl⟩
  obtain ⟨es, hes⟩ := hsection
  obtain ⟨r, hr, hnone⟩ :=
    LawfulLibrary.merge_list_section s₀.config standard a es items hholds hes hitems
  have hmerge := (load_merge_of_table hparse hread htext s₀.config).trans hr
  refine ⟨r, hnone, ?_⟩
  rw [load_of_raised hs₀ (exists?_of_readText hread) hmerge, report_of_families hnone]

theorem load_of_solver {K : List (String × Value)} (hread : readText tree path = .ok text)
    (htext : parse text = .ok (.ofSections [("solver", K)])) (hK : (K.map Prod.fst).Nodup)
    (hsingles : ∀ e ∈ K, IsPlainName e.1 ∧ e.2.isSingle = true) :
    ((∃ s : Settings γ, load tree path = .ok s) ↔
      ∀ e ∈ K, (∃ d, Parameters.Standard e.1 d) → Parameters.checkOf e.1 e.2 = true) ∧
    ∀ e, (load tree path : Except Fault (Settings γ)) = .error e → ∃ c, e = .ofConfig c := by
  obtain ⟨s₀, hs₀, hholds⟩ := holds_new (γ := γ)
  have hes : ∃ es, standard.section? "solver" = some es := ⟨_, rfl⟩
  obtain ⟨es, hes⟩ := hes
  obtain ⟨m, hm⟩ :=
    LawfulLibrary.merge_singles s₀.config standard "solver" es K hholds hes hsingles
  obtain ⟨hrefused, haccepted⟩ := load_of_merged hs₀ (exists?_of_readText hread)
    ((load_merge_of_table hparse hread htext s₀.config).trans hm)
  obtain ⟨hvalid, hconfig⟩ := validate_of_merge hholds hK hm fun e he => (hsingles e he).2
  rw [← hvalid]
  cases hcheck : validate m with
  | ok =>
    obtain ⟨t, ht, -⟩ := haccepted hcheck
    refine ⟨⟨fun _ => rfl, fun _ => ⟨t, ht⟩⟩, fun e he => ?_⟩
    rw [ht] at he
    cases he
  | error x =>
    rw [hrefused x hcheck]
    refine ⟨⟨nofun, nofun⟩, fun e he => ?_⟩
    obtain rfl := Except.error.inj he
    exact hconfig x hcheck

theorem answers (tree : FileTree) (path : String) : Answers γ parse tree path where
  missing := by
    obtain ⟨s₀, hs₀, -⟩ := holds_new (γ := γ)
    exact load_of_not_exists hs₀
  unreadable := fun _ hexists hread => load_of_unreadable hparse hexists hread
  undecodable := fun _ _ hread hutf => load_of_undecodable hparse hread hutf
  illFormed := by
    intro text q hread htext hout
    obtain ⟨r, hfamilies, hload⟩ := load_of_unparsed hparse hread htext
    rw [report_of_not_isAmong ((isAmong_of_families hfamilies _).trans hout)] at hload
    exact ⟨r, hfamilies, hload⟩
  badValue := by
    intro text q hread htext hamong
    obtain ⟨r, hfamilies, hload⟩ := load_of_unparsed hparse hread htext
    rw [report_of_isAmong (List.Subset.refl _) ((isAmong_of_families hfamilies _).trans hamong)]
      at hload
    exact ⟨r.message, hload⟩
  single := fun _ _ hread htext hsingle hnull hno =>
    load_of_single hparse hread htext hsingle hnull hno
  list := fun _ _ hread htext hitems => load_of_list hparse hread htext hitems
  listSection := fun _ _ _ hread htext ha hitems =>
    load_of_listSection hparse hread htext ha hitems
  solver := fun _ _ hread htext hK hsingles => load_of_solver hparse hread htext hK hsingles

end Contents

/-! ## The command -/

section Command

open CommandLine

variable {argv : List String} {args : SolveArguments} {env : Environment}

omit [LawfulLibrary γ] in
/-- Without settings from its file the command stops before anything else. -/
theorem run_of_load (hargs : Request.ofArguments argv = .ok (.solve args))
    (hpath : path ≠ "") (hconfig : args.config = some path)
    (h : (load env.files path : Except Fault (Settings γ)) = .error e) :
    run γ argv env =
      { files := env.files, ending := if e.isConfig then .refused e else .failed e } := by
  have hsettings : (args.settings env.files : Except Fault (Settings γ)) = .error e := by
    unfold SolveArguments.settings
    rw [hconfig]
    split
    · next heq => cases heq
    · next heq => exact absurd (Option.some.inj heq) hpath
    · next heq =>
      cases heq
      rw [h]
      rfl
  have hrun : run γ argv env = args.run γ env := by simp only [run, hargs, Request.run]
  rw [hrun, SolveArguments.run, hsettings]
  cases e <;> rfl

end Command

/-- What becomes of a file of settings: settings that are valid and readable, or a fault of
    settings, or one of the faults of `Escapes`, which it is exactly in the cases that are listed
    there; `Answers` says it by the contents. The search command with the file says why it stops
    and exits with code 2 on a fault of settings, and only then; a fault that escapes ends it
    without an exit code of its own. -/
theorem load_exact {parse : String → Except Raised Value} (hparse : FileLoader γ parse)
    (tree : FileTree) (path : String) :
    ((∃ s : Settings γ, load tree path = .ok s ∧ s.Readable) ∨
      (∃ c, (load tree path : Except Fault (Settings γ)) = .error (.config c)) ∨
      ∃ e, (load tree path : Except Fault (Settings γ)) = .error e ∧ Escapes γ tree path e) ∧
    (∀ e, Escapes γ tree path e ↔
      (load tree path : Except Fault (Settings γ)) = .error e ∧ e.isConfig = false) ∧
    Answers γ parse tree path ∧
    ∀ argv args env, CommandLine.Request.ofArguments argv = .ok (.solve args) → path ≠ "" →
      args.config = some path → env.files = tree →
      let outcome := CommandLine.run γ argv env
      (∀ c, (load tree path : Except Fault (Settings γ)) = .error (.config c) →
        outcome.ending.code? = some CommandLine.ProgramEnd.usage ∧ outcome.output = "" ∧
          outcome.errorText = "error: " ++ c.message ++ "\n" ∧ outcome.files = tree) ∧
      ∀ e, Escapes γ tree path e → outcome = { files := tree, ending := .failed e } := by
  refine ⟨?_, fun e => ⟨fun h => ⟨load_of_escapes h, isConfig_of_escapes h⟩,
    fun h => escapes_of_load h.1 h.2⟩, answers hparse tree path, ?_⟩
  · cases h : (load tree path : Except Fault (Settings γ)) with
    | ok s => exact .inl ⟨s, rfl, readable_of_validate (validate_of_load h)⟩
    | error e =>
      cases hout : e.isConfig with
      | false => exact .inr (.inr ⟨e, rfl, escapes_of_load h hout⟩)
      | true =>
        cases e with
        | config c => exact .inr (.inl ⟨c, rfl⟩)
        | _ => cases hout
  · rintro argv args env hargs hpath hconfig rfl
    refine ⟨fun c h => ?_, fun e h => ?_⟩
    · rw [run_of_load hargs hpath hconfig h]
      exact ⟨rfl, rfl, rfl, rfl⟩
    · rw [run_of_load hargs hpath hconfig (load_of_escapes h), isConfig_of_escapes h]
      rfl

/-- A file of settings that holds a list. -/
def listed : FileTree := ⟨[(["c.yaml"], .file "- 1\n".toUTF8)]⟩

/-- Is it a list with the number one? -/
def isListOfOne : Except Raised Value → Bool
  | .ok (.list [.int 1]) => true
  | _ => false

/-- A list escapes, and the command ends without an exit code. -/
theorem load_exact_of_list :
    let env : CommandLine.Environment :=
      { files := listed, clock := .steady .one, wall := ⟨fun _ => .one, fun _ => "now"⟩,
        traceback := Fault.message }
    (∃ r, r.families = [] ∧
      (load listed "c.yaml" : Except Fault (Settings Document)) = .error (.raised r)) ∧
    (CommandLine.run Document ["solve", "u.txt", "--config", "c.yaml"] env).ending.code? =
      none := by
  intro env
  obtain ⟨-, hfaults, hanswers, hcommand⟩ := load_exact Document.fileLoader listed "c.yaml"
  have hread : readText listed "c.yaml" = .ok "- 1\n" :=
    toOption_eq_some_iff.mp (by decide +kernel)
  have hlist : isListOfOne (Yaml.read .settings "- 1\n") = true := by decide +kernel
  have hparse : Yaml.read .settings "- 1\n" = .ok (.list [.int 1]) := by
    unfold isListOfOne at hlist
    split at hlist
    · next heq => exact heq
    · cases hlist
  obtain ⟨r, hr, hload⟩ := hanswers.list _ _ hread hparse (by simp [Value.isSingle])
  have hargs : CommandLine.Request.ofArguments ["solve", "u.txt", "--config", "c.yaml"] =
      .ok (.solve { file := "u.txt", config := some "c.yaml" }) :=
    toOption_eq_some_iff.mp (by decide +kernel)
  refine ⟨⟨r, hr, hload⟩, ?_⟩
  rw [(hcommand _ _ env hargs (by decide) rfl rfl).2 _ ((hfaults _).mpr ⟨hload, rfl⟩)]
  rfl

end Settings

end FlipSat
