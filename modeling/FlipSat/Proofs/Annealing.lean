import FlipSat.Proofs.Plain

/-
  FlipSat: annealing.
  Main statement: `Parameters.noiseAt_annealed`. The noise goes from the one at the start to the one
  at the end and never back, although every operation on the way is rounded; so no problem refuses
  it in the middle of a try.
-/
namespace FlipSat

namespace Parameters

variable {σ : Type} {p : Parameters}

theorem anneals_of_pos {a n : Nat} (hs : p.noiseStart = .int a) (hn : 0 < n)
    (ha : p.annealFlips = .int n) : p.anneals = true := by
  rw [anneals, hs, ha]
  simpa using hn

/-- On the way from one probability to another the noise is always a probability between the two,
    which the problem of a try takes. It starts at the first, never moves away from the second, and
    stays there from the end of the way on. -/
theorem noiseAt_annealed {a b : Percent} {n : Nat} (hs : p.noiseStart = .int a.val)
    (hl : p.noiseLevel = .int b.val) (hn : 0 < n) (ha : p.annealFlips = .int n) :
    ∃ k : Nat → Percent,
      (∀ i : Nat, p.noiseAt (.int i) = .ok (.int (k i).val) ∧
        min a.val b.val ≤ (k i).val ∧ (k i).val ≤ max a.val b.val) ∧
      (∀ (i : Nat) (q : Problem), q.setNoise (.int (k i).val) = .ok (q.withNoise (k i))) ∧
      (∀ (s : Attempt) (t : TryState σ), s.parameters = p →
        s.annealed t = .ok (t.problem.withNoise (k t.flips))) ∧
      k 0 = a ∧ (∀ i, n ≤ i → k i = b) ∧
      (a.val ≤ b.val → Monotone fun i => (k i).val) ∧
      (b.val ≤ a.val → Antitone fun i => (k i).val) := by
  have ha100 := a.val_le
  have hb100 := b.val_le
  have hsmall : |(a.val : Int)| < 2 ^ 53 := abs_lt.mpr ⟨by omega, by omega⟩
  have hsmall' : |(b.val : Int)| < 2 ^ 53 := abs_lt.mpr ⟨by omega, by omega⟩
  have hspan : |(b.val : Int) - a.val| < 2 ^ 53 := abs_lt.mpr ⟨by omega, by omega⟩
  choose k hnoise hk using exists_noiseAt_eq hs hl hn ha
  have hfirst : (k 0).val = a.val := by
    have h := hk 0
    rw [progress_zero, between_zero hsmall] at h
    exact_mod_cast h
  have hlast : ∀ i, n ≤ i → (k i).val = b.val := by
    intro i hi
    have h := hk i
    rw [progress_of_le hn hi, between_one hsmall' hspan] at h
    exact_mod_cast h
  refine ⟨k, fun i => ⟨hnoise i, ?_⟩, fun i q => q.setNoise_int (k i), ?_,
    Percent.eq_of_int_eq (by rw [hfirst]), fun i hi => Percent.eq_of_int_eq (by rw [hlast i hi]),
    ?_, ?_⟩
  · obtain ⟨h0, h1⟩ := progress_bounds hn i
    have h := between_bounds hsmall hsmall' hspan h0 h1
    rw [← hk i] at h
    omega
  · intro s t hp
    subst hp
    rw [Attempt.annealed, if_pos (anneals_of_pos hs hn ha), hnoise t.flips]
    exact t.problem.setNoise_int (k t.flips)
  · intro hab i j hij
    have h := between_mono (Int.ofNat_le.mpr hab) (progress_mono n hij)
    rw [← hk i, ← hk j] at h
    exact_mod_cast h
  · intro hba i j hij
    have h := between_antitone (Int.ofNat_le.mpr hba) (progress_mono n hij)
    rw [← hk i, ← hk j] at h
    exact_mod_cast h

/-- A noise that falls from 90 to 10 in 7 flips. -/
theorem noiseAt_annealed_falling :
    let p : Parameters := { noiseStart := .int 90, noiseLevel := .int 10, annealFlips := .int 7 }
    ∃ k : Nat → Percent, (∀ i : Nat, p.noiseAt (.int i) = .ok (.int (k i).val)) ∧
      (List.range 9).map (fun i => (k i).val) = [90, 79, 67, 56, 44, 33, 21, 10, 10] ∧
      (∀ i, 7 ≤ i → k i = ⟨10, by decide⟩) ∧ Antitone fun i => (k i).val := by
  intro p
  obtain ⟨k, hk, -, -, -, hlast, -, hfalling⟩ := noiseAt_annealed (σ := Script) (p := p)
    (a := ⟨90, by decide⟩) (b := ⟨10, by decide⟩) (n := 7) rfl rfl (by decide) rfl
  refine ⟨k, fun i => (hk i).1, ?_, hlast, hfalling (by decide)⟩
  have hvalues : (List.range 9).map
      (fun i : Nat => (p.noiseAt (.int i)).toOption.bind Value.toInt?) =
      ([90, 79, 67, 56, 44, 33, 21, 10, 10] : List Nat).map fun m : Nat => some (m : Int) := by
    decide +kernel
  simp only [fun i => (hk i).1] at hvalues
  have hcast : ((List.range 9).map fun i => (k i).val).map (fun m : Nat => some (m : Int)) =
      ([90, 79, 67, 56, 44, 33, 21, 10, 10] : List Nat).map fun m : Nat => some (m : Int) := by
    rw [List.map_map]
    exact hvalues
  exact List.map_injective_iff.mpr (fun _ _ h => Int.ofNat.inj (Option.some.inj h)) hcast

end Parameters

end FlipSat
