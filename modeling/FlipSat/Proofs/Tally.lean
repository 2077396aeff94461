import FlipSat.Problem.Basic
import FlipSat.Proofs.DenseSet

/-
  FlipSat: a tally keeps counts, and the set of the places whose count is zero.
  `Sound` says that the set is the one that the counts ask for. When counts that are not negative
  go up by one, place after place, the set follows and no place is missing from it (`gainAll_spec`);
  when positive counts go down by one the set follows too (`loseAll_spec`). Both say in which order
  the members stand then: what leaves is replaced by the last member, and what enters comes last.
-/
namespace FlipSat.Tally

variable {t : Tally} {i : Nat} {n : Int} {is : List Nat}

/-- The set holds the places whose count is zero, and no others. -/
structure Sound (t : Tally) : Prop where
  set : t.unsatisfied.Sound
  mem_iff : ∀ i, i ∈ t.unsatisfied.toList ↔ t.counts[i]? = some 0

theorem count_eq (h : t.counts[i]? = some n) : t.count i = n := by
  rw [count, Array.getD_eq_getD_getElem?, h]
  rfl

theorem sound_ofCounts (counts : List Nat) : (ofCounts counts).Sound := by
  refine ⟨DenseSet.sound_ofList _, fun i => ?_⟩
  rw [ofCounts]
  dsimp only
  rw [DenseSet.toList_ofList, List.mem_eraseDups, List.mem_filter]
  simp
  grind

/-! ## One place -/

theorem gain_spec (h : t.Sound) (hn : t.counts[i]? = some n) (hpos : 0 ≤ n) :
    ∃ u, t.gain i = .ok u ∧ u.Sound ∧ u.counts = t.counts.setIfInBounds i (n + 1) ∧
      u.unsatisfied.toList = if n = 0 then DenseSet.swapErase t.unsatisfied.toList i
        else t.unsatisfied.toList := by
  unfold gain
  dsimp only
  rw [count_eq hn]
  by_cases h0 : n = 0
  · subst h0
    have hm : i ∈ t.unsatisfied.toList := (h.mem_iff i).mpr hn
    rw [if_pos (by decide)]
    cases he : t.unsatisfied.erase? i with
    | none => exact absurd hm ((DenseSet.erase?_eq_none_iff h.set).mp he)
    | some u =>
      refine ⟨_, rfl, ⟨h.set.erase he, fun j => ?_⟩, rfl, DenseSet.toList_erase h.set he⟩
      dsimp only
      rw [DenseSet.mem_erase h.set he, h.mem_iff, Array.getElem?_setIfInBounds]
      by_cases hj : i = j <;> grind
  · rw [if_neg (by omega), if_neg h0]
    refine ⟨_, rfl, ⟨h.set, fun j => ?_⟩, rfl, rfl⟩
    dsimp only
    rw [h.mem_iff, Array.getElem?_setIfInBounds]
    by_cases hj : i = j <;> grind

theorem lose_spec (h : t.Sound) (hn : t.counts[i]? = some n) (hpos : 0 < n) :
    (t.lose i).Sound ∧ (t.lose i).counts = t.counts.setIfInBounds i (n - 1) ∧
      (t.lose i).unsatisfied.toList =
        t.unsatisfied.toList ++ if n = 1 then [i] else [] := by
  have hi : i ∉ t.unsatisfied.toList := by
    rw [h.mem_iff, hn, Option.some.injEq]
    omega
  unfold lose
  dsimp only
  rw [count_eq hn]
  by_cases h1 : n = 1
  · rw [if_pos (by omega), if_pos h1]
    refine ⟨⟨h.set.insert i, fun j => ?_⟩, rfl, ?_⟩
    · dsimp only
      rw [DenseSet.mem_insert h.set, h.mem_iff, Array.getElem?_setIfInBounds]
      by_cases hj : i = j <;> grind
    · rw [DenseSet.toList_insert h.set, if_neg hi]
  · rw [if_neg (by omega), if_neg h1, List.append_nil]
    refine ⟨⟨h.set, fun j => ?_⟩, rfl, rfl⟩
    dsimp only
    rw [h.mem_iff, Array.getElem?_setIfInBounds]
    by_cases hj : i = j <;> grind

/-! ## Many places -/

/-- The counts after a change at one place. -/
theorem getElem?_change {counts : Array Int} (hn : counts[i]? = some n) (g : Int → Int) (j : Nat) :
    (counts.setIfInBounds i (g n))[j]? = counts[j]?.map fun n => if j = i then g n else n := by
  rw [Array.getElem?_setIfInBounds]
  by_cases hj : i = j
  · subst hj
    obtain ⟨hi, rfl⟩ := Array.getElem?_eq_some_iff.mp hn
    simp [hi]
  · simp [hj, Ne.symm hj]

/-- A change at one place and then at others is a change at all of them. -/
theorem map_change_cons (hi : i ∉ is) (g : Int → Int) (j : Nat) (m : Option Int) :
    (m.map fun n => if j = i then g n else n).map (fun n => if j ∈ is then g n else n) =
      m.map fun n => if j ∈ i :: is then g n else n := by
  rw [Option.map_map]
  refine congrArg (m.map ·) (funext fun n => ?_)
  by_cases hj : j = i
  · subst hj
    simp [hi]
  · simp [hj]

/-- What holds of the counts at some places still holds after a change at another one. -/
theorem counts_of_change {u : Tally} {g : Int → Int} {q : Int → Prop} (hi : i ∉ is)
    (hu : ∀ j : Nat, u.counts[j]? = t.counts[j]?.map fun n => if j = i then g n else n)
    (h : ∀ j ∈ is, ∃ n, t.counts[j]? = some n ∧ q n) :
    ∀ j ∈ is, ∃ n, u.counts[j]? = some n ∧ q n := by
  intro j hj
  obtain ⟨m, hm, hq⟩ := h j hj
  have hne : j ≠ i := fun e => hi (e ▸ hj)
  exact ⟨m, by rw [hu, hm]; simp [hne], hq⟩

/-- A change at one place leaves the places with some count among the others. -/
theorem filter_counts_of_change {u : Tally} {g : Int → Int} (hi : i ∉ is)
    (hu : ∀ j : Nat, u.counts[j]? = t.counts[j]?.map fun n => if j = i then g n else n)
    (k : Int) : (is.filter fun j => u.counts[j]? == some k) =
      is.filter fun j => t.counts[j]? == some k := by
  refine List.filter_congr fun j hj => ?_
  have hne : j ≠ i := fun e => hi (e ▸ hj)
  rw [hu]
  simp [hne]

/-- Places that gain are taken out of the list, each at its turn, if they had no true literal. -/
theorem gainAll_spec (h : t.Sound) (hnd : is.Nodup)
    (hpos : ∀ i ∈ is, ∃ n, t.counts[i]? = some n ∧ 0 ≤ n) :
    ∃ u, t.gainAll is = (u, none) ∧ u.Sound ∧
      (∀ j : Nat, u.counts[j]? = t.counts[j]?.map fun n => if j ∈ is then n + 1 else n) ∧
      u.unsatisfied.toList =
        (is.filter fun i => t.counts[i]? == some 0).foldl DenseSet.swapErase
          t.unsatisfied.toList := by
  induction is generalizing t with
  | nil => exact ⟨t, rfl, h, by simp, rfl⟩
  | cons i is ih =>
    obtain ⟨hi, his⟩ := List.nodup_cons.mp hnd
    obtain ⟨n, hn, hn0⟩ := hpos i (by simp)
    obtain ⟨u, hu, hus, huc, hul⟩ := gain_spec h hn hn0
    have hcounts := fun j => (congrArg (·[j]?) huc).trans (getElem?_change hn (· + 1) j)
    have hrest := counts_of_change hi hcounts fun j hj => hpos j (List.mem_cons_of_mem i hj)
    obtain ⟨w, hw, hws, hwc, hwl⟩ := ih hus his hrest
    refine ⟨w, by rw [gainAll, hu]; exact hw, hws, fun j => ?_, ?_⟩
    · rw [hwc, hcounts]
      exact map_change_cons hi (· + 1) j _
    · rw [hwl, filter_counts_of_change hi hcounts, hul, List.filter_cons, hn]
      by_cases h0 : n = 0 <;> simp [h0]

/-- Places that lose their last true literal are put at the end of the list, in their order. -/
theorem loseAll_spec (h : t.Sound) (hnd : is.Nodup)
    (hpos : ∀ i ∈ is, ∃ n, t.counts[i]? = some n ∧ 0 < n) :
    (t.loseAll is).Sound ∧
      (∀ j : Nat, (t.loseAll is).counts[j]? =
        t.counts[j]?.map fun n => if j ∈ is then n - 1 else n) ∧
      (t.loseAll is).unsatisfied.toList =
        t.unsatisfied.toList ++ is.filter fun i => t.counts[i]? == some 1 := by
  induction is generalizing t with
  | nil => exact ⟨h, by simp [loseAll]⟩
  | cons i is ih =>
    obtain ⟨hi, his⟩ := List.nodup_cons.mp hnd
    obtain ⟨n, hn, hn0⟩ := hpos i (by simp)
    obtain ⟨hus, huc, hul⟩ := lose_spec h hn hn0
    have hcounts := fun j => (congrArg (·[j]?) huc).trans (getElem?_change hn (· - 1) j)
    have hrest := counts_of_change hi hcounts fun j hj => hpos j (List.mem_cons_of_mem i hj)
    obtain ⟨hws, hwc, hwl⟩ := ih hus his hrest
    have hstep : t.loseAll (i :: is) = (t.lose i).loseAll is := rfl
    rw [hstep]
    refine ⟨hws, fun j => ?_, ?_⟩
    · rw [hwc, hcounts]
      exact map_change_cons hi (· - 1) j _
    · rw [hwl, filter_counts_of_change hi hcounts, hul, List.filter_cons, hn]
      by_cases h1 : n = 1 <;> simp [h1]

end FlipSat.Tally
