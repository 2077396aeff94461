import FlipSat.Proofs.Budget
import FlipSat.Proofs.Changes
import FlipSat.Proofs.Override

/-
  FlipSat: what is accepted as a timeout, and the deadlines that come of it.
  The settings, an override and the argument of a search are checked apart, and each check refuses
  what is zero or less. What is no number is neither (`le_zero_eq_false_iff`), so all of them accept
  it besides the numbers above zero. A number above zero gives a deadline that is reached in the
  end, unless it is an integer that the format cannot hold (`deadlineOf_of_positive`); what is no
  number gives one that no reading of the clock reaches, and its search never ends for lack of time
  (`solve_ne_timeout`). Main statement: `Solver.timeouts_exact`.
-/
namespace FlipSat

/-! ## Numbers above zero -/

namespace Binary64

theorem le_zero_of_isZero {x : Binary64} (h : x.isZero = true) : x.le (zero false) = true := by
  unfold isZero at h
  split at h
  · next s e => cases s <;> simp [le, compare?, zero, signed]
  · cases h

theorem isNaN_ofQuotient (s : Bool) (num den : Nat) : (ofQuotient s num den).isNaN = false := by
  unfold ofQuotient roundTo
  dsimp only
  split_ifs <;> rfl

theorem isNaN_of_ofInt? {n : Int} {x : Binary64} (h : ofInt? n = some x) : x.isNaN = false := by
  have hq := isNaN_ofQuotient (decide (n < 0)) n.natAbs 1
  unfold ofInt? at h
  split at h
  · cases h
  · obtain rfl := Option.some.inj h
    exact hq

theorem isNaN_add_finite (s : Bool) (m : Nat) (e : Int) {x : Binary64} (hx : x.isNaN = false) :
    (add (.finite s m e) x).isNaN = false := by
  cases x with
  | nan => cases hx
  | infinity b => rfl
  | finite t n f =>
    unfold add ofScaled
    dsimp only
    split_ifs
    · rfl
    · exact isNaN_ofQuotient _ _ _

end Binary64

namespace Value

/-- A number above zero. Truth values are none. -/
def IsPositive : Value → Prop
  | .int n => 0 < n
  | .real x => (Binary64.zero false).le x = true ∧ x.le (.zero false) = false
  | _ => False

theorem isPositive_real_or_nan_iff {x : Binary64} :
    (real x).IsPositive ∨ real x = real .nan ↔ x.le (.zero false) = false := by
  rw [Binary64.le_zero_eq_false_iff, real.injEq]
  rfl

end Value

/-! ## The three checks -/

theorem Settings.isTimeout_iff_positive {v : Value} :
    isTimeout v = true ↔ v = .null ∨ v.IsPositive ∨ v = .real .nan := by
  cases v with
  | real x =>
    rw [Value.isPositive_real_or_nan_iff]
    simp [isTimeout]
  | null | bool | int | text | bytes | path | list | tuple | table | foreign =>
    simp [isTimeout, Value.IsPositive]

/-- What settings that pass their check have as a timeout. -/
theorem Settings.timeout_of_validate {γ : Type} [SettingsLibrary γ] {s : Settings γ}
    (h : validate s.config = .ok ()) : ∃ v, s.get "solver.timeout" .null = .ok v ∧
      (v = .null ∨ v.IsPositive ∨ v = .real .nan) := by
  obtain ⟨-, -, -, -, ⟨v, hv, haccepts⟩, -⟩ := validate_eq_ok_iff.mp h
  exact ⟨v, hv, isTimeout_iff_positive.mp haccepts⟩

/-- An override is checked as it is read after it was merged, so a text can pass for a number. -/
theorem Parameters.timeout_of_override {γ : Type} [SettingsLibrary γ] [LawfulLibrary γ]
    {s : Settings γ} {K : List (String × Value)} {p : Parameters}
    (hs : Settings.validate s.config = .ok ()) (hK : (K.map Prod.fst).Nodup)
    (h : override s K = .ok p) :
    p.timeout = .null ∨ p.timeout.IsPositive ∨ p.timeout = .real .nan ∨
      ("timeout", p.timeout) ∈ K ∧ ∃ t, p.timeout = .text t := by
  have hn : Standard "timeout" .null := by simp [Standard, entries]
  rcases fits_or_unusable hs hK h hn (v := p.timeout) rfl with
    hfits | ⟨he, ⟨-, ht⟩ | ⟨hname, -⟩⟩
  · rcases Settings.isTimeout_iff_positive.mp hfits.1 with hnull | hpositive | hnan
    · exact .inl hnull
    · exact .inr (.inl hpositive)
    · exact .inr (.inr (.inl hnan))
  · exact .inr (.inr (.inr ⟨he, ht⟩))
  · exact absurd hname (by decide)

namespace Solver

theorem checkTimeout_eq_ok_iff {v : Value} :
    checkTimeout v = .ok () ↔ v = .null ∨ v.IsPositive ∨ v = .real .nan := by
  cases v with
  | int n =>
    have h : checkTimeout (.int n) =
        if n ≤ 0 then .error (.ofConfig (.timeoutArgument (.int n))) else .ok () := rfl
    rw [h]
    by_cases hn : n ≤ 0
    · simp [Value.IsPositive, hn]
    · simp [Value.IsPositive, hn, Int.not_le.mp hn]
  | real x =>
    have h : checkTimeout (.real x) =
        if x.le (.zero false) then .error (.ofConfig (.timeoutArgument (.real x))) else .ok () :=
      rfl
    rw [h, Value.isPositive_real_or_nan_iff]
    cases x.le (.zero false) <;> simp
  | _ => simp [checkTimeout, Value.number?, Value.IsPositive]

/-! ## Deadlines -/

theorem deadlineOf_of_large {n : Int} (h : 0 < n) (hlarge : Binary64.ofInt? n = none)
    (started : Binary64) : deadlineOf started (.int n) =
      .error (.tooLarge "int too large to convert to float") := by
  have hn : (n != 0) = true := by simpa using h.ne'
  unfold deadlineOf realOfNumber
  simp only [Value.truth, Value.number?, hn, hlarge]
  rfl

/-- A number above zero gives a deadline that is reached in the end, unless it is too large. -/
theorem deadlineOf_of_positive {v : Value} (h : v.IsPositive) (b : Bool) (m : Nat) (e : Int) :
    (∃ d, deadlineOf (.finite b m e) v = .ok (some d) ∧ d.le (.infinity false) = true) ∨
      ∃ n, v = .int n ∧ Binary64.ofInt? n = none ∧ deadlineOf (.finite b m e) v =
        .error (.tooLarge "int too large to convert to float") := by
  have hreached {x : Binary64} (hx : x.isNaN = false) :
      ((Binary64.finite b m e).add x).le (.infinity false) = true := by
    rw [Binary64.le_infinity_iff]
    exact Binary64.isNaN_add_finite b m e hx
  cases v with
  | int n =>
    cases hx : Binary64.ofInt? n with
    | none => exact .inr ⟨n, rfl, hx, deadlineOf_of_large h hx _⟩
    | some x =>
      have hn : (n != 0) = true := by simpa using (show 0 < n from h).ne'
      refine .inl ⟨_, ?_, hreached (Binary64.isNaN_of_ofInt? hx)⟩
      simp only [deadlineOf, Value.truth, Value.number?, hn, realOfNumber, hx]
      rfl
  | real x =>
    have hzero : x.isZero = false := by
      by_contra hz
      have hle := Binary64.le_zero_of_isZero (by simpa using hz)
      rw [h.2] at hle
      cases hle
    refine .inl ⟨_, ?_, hreached (Binary64.isNaN_of_le h.1).2⟩
    simp only [deadlineOf, Value.truth, Value.number?, hzero, realOfNumber]
    rfl
  | _ => exact absurd h id

end Solver

/-! ## Searches without a limit -/

namespace Attempt

variable {σ : Type} {a : Attempt} {t u : TryState σ}

theorem late_of_nan (ha : a.deadline = some .nan) (t : TryState σ) : (a.late t).1 = false := by
  rw [late, ha]
  rfl

theorem Runs.ne_timeout [RandomSource σ] {n : Nat} {c : List Problem} {e : Ending}
    (h : a.Runs n t c u e) (ha : a.deadline = some .nan) : e ≠ .timeout := by
  induction h with
  | solved | exhausted | interrupted => decide
  | timeout _ hl =>
    rw [late_of_nan ha] at hl
    cases hl
  | flip _ _ _ ih => exact ih

end Attempt

namespace Solver

variable {σ : Type} [RandomSource σ] {s : Solver σ} {timeout : Value}

theorem deadlineOf_nan (started : Binary64) :
    deadlineOf started (.real .nan) = .ok (some .nan) := by
  cases started <;> rfl

theorem tryUpTo_ne_timeout {n : Nat} {r r' : Search σ} {e : Ending}
    (h : s.tryUpTo (some .nan) n r = (r', .ok e)) : e ≠ .timeout := by
  induction n generalizing r with
  | zero =>
    obtain rfl : Ending.exhausted = e := Except.ok.inj (Prod.mk.inj h).2
    decide
  | succ n ih =>
    rw [tryUpTo] at h
    rcases hone : s.oneTry (some .nan) r with ⟨r₁, x | e₁⟩
    · simp [hone] at h
    · obtain ⟨_, _, _, -, hruns, -⟩ := oneTry_inv hone
      have hend := hruns.ne_timeout rfl
      rw [hone] at h
      cases e₁ with
      | exhausted => exact ih h
      | timeout => exact absurd rfl hend
      | solved | interrupted =>
        obtain rfl := Except.ok.inj (Prod.mk.inj h).2
        exact hend

/-- A search with no number as its timeout does not end for lack of time. -/
theorem solve_ne_timeout {r : SearchResult} (ht : s.timeoutOf timeout = .real .nan)
    (hr : (s.solve timeout).result = .ok r) : r.status ≠ .timeout := by
  unfold solve at hr
  rcases hready : s.ready timeout with ⟨s', x | b⟩
  · simp [hready] at hr
  · obtain ⟨-, -, -, hd, -⟩ := ready_eq_ok_iff.mp hready
    rw [ht, deadlineOf_nan, Except.ok.injEq] at hd
    rw [hready] at hr
    dsimp only at hr
    rw [← hd] at hr
    rcases htry : s'.tryUpTo (some .nan) b.tries s'.opening with ⟨t, x | e⟩
    · simp [htry] at hr
    · rw [htry] at hr
      obtain rfl := Except.ok.inj hr
      exact fun h => tryUpTo_ne_timeout htry (statusOf_inj.mp h)

/-- What is accepted as a timeout is a number above zero or no number at all, whether it is checked
    in settings, after any changes and as the command has them, or as the argument of a search. An
    override can be a text besides. A number above zero gives a deadline that is reached in the end,
    unless it is an integer that the format cannot hold; no number gives no limit. -/
theorem timeouts_exact (γ : Type) [SettingsLibrary γ] [LawfulLibrary γ] :
    (∀ d : γ, Settings.Accepts d "solver.timeout" Settings.isTimeout ↔
      ∃ v, Settings.read d "solver.timeout" .null = .ok v ∧
        (v = .null ∨ v.IsPositive ∨ v = .real .nan)) ∧
    (∀ s : Settings γ, Settings.Reached s → ∃ v, s.get "solver.timeout" .null = .ok v ∧
      (v = .null ∨ v.IsPositive ∨ v = .real .nan)) ∧
    (∀ (args : CommandLine.SolveArguments) (files : FileTree) (s : Settings γ),
      args.settings files = .ok s → Settings.Reached s) ∧
    (∀ (s : Settings γ) K p, Settings.Reached s → (K.map Prod.fst).Nodup →
      Parameters.override s K = .ok p →
      p.timeout = .null ∨ p.timeout.IsPositive ∨ p.timeout = .real .nan ∨
        ("timeout", p.timeout) ∈ K ∧ ∃ t, p.timeout = .text t) ∧
    (∀ v, checkTimeout v = .ok () ↔ v = .null ∨ v.IsPositive ∨ v = .real .nan) ∧
    (∀ v : Value, v.IsPositive → ∀ b m e,
      (∃ d, deadlineOf (.finite b m e) v = .ok (some d) ∧ d.le (.infinity false) = true) ∨
        ∃ n, v = .int n ∧ Binary64.ofInt? n = none ∧ deadlineOf (.finite b m e) v =
          .error (.tooLarge "int too large to convert to float")) ∧
    (∀ (s : Solver σ) (timeout : Value) (r : SearchResult), s.timeoutOf timeout = .real .nan →
      (s.solve timeout).result = .ok r → r.status ≠ .timeout) := by
  refine ⟨fun d => ?_, fun s hs => Settings.timeout_of_validate hs.validate,
    fun args files s hs => Settings.reached_of_settings hs,
    fun s K p hs hK h => Parameters.timeout_of_override hs.validate hK h,
    fun v => checkTimeout_eq_ok_iff, fun v h => deadlineOf_of_positive h,
    fun s timeout r ht hr => solve_ne_timeout ht hr⟩
  exact exists_congr fun v => and_congr_right fun _ => Settings.isTimeout_iff_positive

/-- No number as a timeout: the settings take it, and a search with it does not end for lack of time
    although its clock stands at infinity. An integer above zero that is too large gives no
    deadline. -/
theorem timeouts_exact_of_nan :
    let s : Solver Script := ofFormula [[⟨"a", false⟩], [⟨"a", true⟩]]
      { maxFlips := .int 2, maxTries := .int 3 } none false ⟨Script.mk [1, 0], {}, 0, 0, false⟩
      ⟨fun _ => .infinity false, 0⟩
    ∃ (t : Settings Document) (r : SearchResult), Settings.Reached t ∧
      t.get "solver.timeout" .null = .ok (.real .nan) ∧
      (s.solve (.real .nan)).result = .ok r ∧ r.status ≠ .timeout ∧
      (Value.int (2 ^ 1024)).IsPositive ∧
      deadlineOf (.zero false) (.int (2 ^ 1024)) =
        .error (.tooLarge "int too large to convert to float") := by
  intro s
  obtain ⟨-, hsettings, -, -, -, hdeadline, hsearch⟩ := timeouts_exact (σ := Script) Document
  let s₀ : Settings Document := ⟨fun _ => ⟨Settings.standard⟩, 1, 0, Nat.one_pos⟩
  let t := (s₀.apply (.set "solver.timeout" (.real .nan))).1
  have hreached : Settings.Reached t := ⟨s₀, rfl, [_], rfl⟩
  have hnumber : (t.get "solver.timeout" .null).toOption.bind Value.number? =
      some (.inr .nan) := by decide +kernel
  obtain ⟨v, hv, -⟩ := hsettings t hreached
  have hnan : v = .real .nan := by
    rw [hv] at hnumber
    cases v with
    | real x =>
      cases hnumber
      rfl
    | null | bool | int | text | bytes | path | list | tuple | table | foreign => cases hnumber
  have hvalid : s.parameters.Valid :=
    { Parameters.valid_default with
      maxFlips := ⟨2, by decide, rfl⟩
      maxTries := ⟨3, by decide, rfl⟩ }
  have hwritable : s.parameters.maxTries.isWritable = true :=
    (Value.isWritable_int 3).mpr (lt_of_lt_of_le (by decide : 3 < 10 ^ 1)
      (Nat.pow_le_pow_right (by decide) (by decide)))
  have hready : s.ready (.real .nan) =
      (_, .ok ⟨.infinity false, .real .nan, some .nan, 3⟩) := rfl
  obtain ⟨r, hr⟩ := solve_returns (by decide) hvalid hwritable hready
  have hlarge : Binary64.ofInt? (2 ^ 1024) = none := by decide +kernel
  have hpositive : (Value.int (2 ^ 1024)).IsPositive := by
    show (0 : Int) < 2 ^ 1024
    positivity
  refine ⟨t, r, hreached, hnan ▸ hv, hr, hsearch s _ r rfl hr, hpositive, ?_⟩
  rcases hdeadline _ hpositive false 0 (-1074) with ⟨d, hd, -⟩ | ⟨n, -, -, herror⟩
  · rw [deadlineOf_of_large hpositive hlarge] at hd
    cases hd
  · exact herror

end Solver

end FlipSat
