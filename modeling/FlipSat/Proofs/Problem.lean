import FlipSat.Problem.Step
import FlipSat.Proofs.Assignment
import FlipSat.Proofs.Instance
import FlipSat.Proofs.Tally

/-
  FlipSat: the bookkeeping of a problem is what a full count gives.
  `Consistent` says so of the counts and of the set of unsatisfied clauses; the check of a problem
  then finds nothing (`Consistent.check`). A flip of a proposition that the assignment knows keeps a
  problem consistent (`flip_of_knows`); on any other it changes nothing (`flip_of_not_knows`).
-/
namespace FlipSat

/-- How often a flip makes a literal true or false, over a list of literals. -/
theorem countP_satisfies_flip {a b : Assignment} {x : Proposition} {ls : List Literal}
    (hk : ∀ l ∈ ls, a.Knows l.proposition)
    (hb : ∀ y, a.Knows y → b.truth y = if y = x then !a.truth x else a.truth y) :
    ls.countP b.satisfies + ls.count ⟨x, a.truth x⟩ =
      ls.countP a.satisfies + ls.count ⟨x, !a.truth x⟩ := by
  induction ls with
  | nil => rfl
  | cons l ls ih =>
    have hih := ih fun m hm => hk m (by simp [hm])
    have hl := hb l.proposition (hk l (by simp))
    obtain ⟨y, pos⟩ := l
    dsimp only at hl
    rw [List.countP_cons, List.countP_cons, List.count_cons, List.count_cons]
    by_cases hy : y = x
    · subst hy
      rw [if_pos rfl] at hl
      cases ht : a.truth y <;> cases pos <;> simp_all [Assignment.satisfies] <;> omega
    · rw [if_neg hy] at hl
      simp [Assignment.satisfies, hl, hy]
      omega

namespace Problem

variable {p q : Problem} {x : Proposition}

/-- The counts are the numbers of true literals, and the set is that of the clauses without any. -/
structure Consistent (p : Problem) : Prop where
  inst : p.inst.Sound
  known : p.assignment.propositions.toList <+: p.inst.vocabulary.propositions.toList
  knows : ∀ c ∈ p.inst.clauses, ∀ l ∈ c.literals, p.assignment.Knows l.proposition
  counts_eq : ∀ i : Nat, p.tally.counts[i]? =
    p.inst.clauses[i]?.map fun c => (c.literals.countP p.assignment.satisfies : Int)
  tally : p.tally.Sound

theorem Consistent.enumerated (h : p.Consistent) : Enumerated p.assignment.propositions :=
  h.inst.vocabulary.enumerated.of_prefix h.known

theorem Consistent.mem_vocabulary (h : p.Consistent) (hx : p.assignment.Knows x) :
    x ∈ p.inst.vocabulary.propositions := by
  simpa using h.known.subset (by simpa using hx.mem)

/-! ## Counting -/

theorem recount_eq {a : Assignment} {cs : List Clause}
    (h : ∀ c ∈ cs, ∀ l ∈ c.literals, a.Knows l.proposition) :
    recount a cs = .ok (cs.map fun c => c.literals.countP a.satisfies) := by
  induction cs with
  | nil => rfl
  | cons c cs ih =>
    have hc : a.trueLiteralCount c = .ok (c.literals.countP a.satisfies) :=
      Assignment.countTrue_eq (h c (by simp))
    rw [recount, hc, ih fun d hd => h d (by simp [hd])]
    rfl

theorem firstDifference_self {α : Type} [DecidableEq α] (i : Nat) (as : List α) :
    firstDifference i as as = none := by
  induction as generalizing i with
  | nil => rfl
  | cons a as ih => rw [firstDifference, if_pos rfl, ih]

theorem Consistent.count (h : p.Consistent) {i : Nat} {c : Clause}
    (hc : p.inst.clauses[i]? = some c) :
    p.tally.counts[i]? = some (c.literals.countP p.assignment.satisfies : Int) := by
  rw [h.counts_eq, hc]
  rfl

theorem Consistent.toList_counts (h : p.Consistent) : p.tally.counts.toList =
    p.inst.clauses.toList.map fun c => (c.literals.countP p.assignment.satisfies : Int) :=
  List.ext_getElem? fun i => by
    rw [Array.getElem?_toList, h.counts_eq, List.getElem?_map, Array.getElem?_toList]

/-- The check of a consistent problem finds nothing. -/
theorem Consistent.check (h : p.Consistent) : p.check = .ok () := by
  have hknows : ∀ c ∈ p.inst.clauses.toList, ∀ l ∈ c.literals, p.assignment.Knows l.proposition :=
    fun c hc => h.knows c (by simpa using hc)
  have hcounts : p.tally.counts.toList =
      (p.inst.clauses.toList.map fun c => c.literals.countP p.assignment.satisfies).map
        Int.ofNat := by
    rw [h.toList_counts, List.map_map]
    rfl
  have hmembers : (List.range p.clauseCount).map p.tally.unsatisfied.contains =
      (List.range p.clauseCount).map p.unsatisfied := by
    refine List.map_congr_left fun i hi => ?_
    have hc : p.inst.clauses[i]? = some _ := Array.getElem?_eq_getElem (List.mem_range.mp hi)
    rw [Bool.eq_iff_iff, h.tally.set.contains_iff, h.tally.mem_iff, h.count hc, unsatisfied,
      Tally.count_eq (h.count hc)]
    simp
  rw [Problem.check, recount_eq hknows]
  simp only [bind, Except.bind, ← hcounts, firstDifference_self, hmembers]
  rfl

/-! ## Flips -/

theorem flip_of_not_knows (h : ¬ p.assignment.Knows x) :
    p.flip x = (p, some (p.assignment.refusal x)) := by
  rw [flip, Assignment.value_of_not_knows h]

theorem nodup_holders (cs : List Clause) (l : Literal) : (holders cs l).Nodup :=
  List.nodup_range.filter _

theorem mem_holders_of_getElem? {cs : List Clause} {i : Nat} {c : Clause} (hc : cs[i]? = some c)
    (l : Literal) : i ∈ holders cs l ↔ l ∈ c.literals := by
  rw [mem_holders, holdsAt_iff, hc]
  simp

theorem Consistent.exact (h : p.Consistent) (hx : p.assignment.Knows x) :
    (p.occurrencesOf x).Exact p.inst.clauses.toList x :=
  h.inst.exact x (h.mem_vocabulary hx)

/-- The clauses that hold a literal have counts. -/
theorem Consistent.count_of_holders (h : p.Consistent) (l : Literal) :
    ∀ i ∈ holders p.inst.clauses.toList l, ∃ n, p.tally.counts[i]? = some n ∧ 0 ≤ n := by
  intro i hi
  obtain ⟨c, hc, -⟩ := holdsAt_iff.mp (mem_holders.mp hi)
  exact ⟨_, h.count (by simpa using hc), by omega⟩

/-- The clauses that hold a true literal have positive counts, also after other clauses gained. -/
theorem Consistent.count_of_gained (h : p.Consistent) {l : Literal}
    (hl : p.assignment.satisfies l = true) {u : Tally} {is : List Nat}
    (hu : ∀ j : Nat, u.counts[j]? = p.tally.counts[j]?.map fun n => if j ∈ is then n + 1 else n) :
    ∀ i ∈ holders p.inst.clauses.toList l, ∃ n, u.counts[i]? = some n ∧ 0 < n := by
  intro i hi
  obtain ⟨c, hc, hlc⟩ := holdsAt_iff.mp (mem_holders.mp hi)
  have hpos : 0 < c.literals.countP p.assignment.satisfies :=
    List.countP_pos_iff.mpr ⟨l, hlc, hl⟩
  refine ⟨_, by rw [hu, h.count (by simpa using hc)]; rfl, ?_⟩
  dsimp only
  split <;> omega

/-- What a flip does to the counts: each clause that holds the literal that becomes true gains one,
    and then each that holds the literal that becomes false loses one. -/
theorem Consistent.tally_flip (h : p.Consistent) {b : Assignment}
    (hb : ∀ y, p.assignment.Knows y →
      b.truth y = if y = x then !p.assignment.truth x else p.assignment.truth y) :
    ∃ u : Tally, p.tally.gainAll (holders p.inst.clauses.toList ⟨x, !p.assignment.truth x⟩) =
        (u, none) ∧
      (u.loseAll (holders p.inst.clauses.toList ⟨x, p.assignment.truth x⟩)).Sound ∧
      ∀ i : Nat, (u.loseAll (holders p.inst.clauses.toList ⟨x, p.assignment.truth x⟩)).counts[i]? =
        p.inst.clauses[i]?.map fun c => (c.literals.countP b.satisfies : Int) := by
  obtain ⟨u, hu, hus, huc, -⟩ := Tally.gainAll_spec h.tally
    (nodup_holders p.inst.clauses.toList ⟨x, !p.assignment.truth x⟩) (h.count_of_holders _)
  obtain ⟨hls, hlc, -⟩ := Tally.loseAll_spec hus
    (nodup_holders p.inst.clauses.toList ⟨x, p.assignment.truth x⟩)
    (h.count_of_gained (by simp [Assignment.satisfies]) huc)
  refine ⟨u, hu, hls, fun i => ?_⟩
  rw [hlc, huc, h.counts_eq]
  cases hc : p.inst.clauses[i]? with
  | none => rfl
  | some c =>
    have hmem : c ∈ p.inst.clauses := Array.mem_of_getElem? hc
    have hnd := h.inst.nodup c hmem
    have hcount := countP_satisfies_flip (h.knows c hmem) hb
    have hc' : p.inst.clauses.toList[i]? = some c := by simpa using hc
    simp only [hnd.count, mem_holders_of_getElem? hc', Option.map_some, Option.some.injEq]
      at hcount ⊢
    split at hcount <;> split at hcount <;> simp_all
    all_goals omega

/-- A flip of a known proposition succeeds, and keeps the counts exact. -/
theorem flip_of_knows (h : p.Consistent) (hx : p.assignment.Knows x) :
    ∃ q, p.flip x = (q, none) ∧ q.Consistent ∧ q.inst = p.inst ∧ q.noise = p.noise ∧
      q.flips = p.flips + 1 ∧ p.assignment.flip x = .ok q.assignment := by
  obtain ⟨b, hb, hprops, htruth⟩ := Assignment.flip_of_knows hx
  obtain ⟨u, hu, hsound, hcounts⟩ := h.tally_flip htruth
  obtain ⟨hpos, hneg, -⟩ := h.exact hx
  have hknows : ∀ y, p.assignment.Knows y → b.Knows y :=
    fun y => (Assignment.knows_congr hprops).mpr
  refine ⟨{ p with
    assignment := b
    tally := u.loseAll (holders p.inst.clauses.toList ⟨x, p.assignment.truth x⟩)
    flips := p.flips + 1 }, ?_, ?_, rfl, rfl, rfl, hb⟩
  · rw [flip, Assignment.value_of_knows hx, hb]
    dsimp only
    cases ht : p.assignment.truth x with
    | true =>
      rw [ht] at hu
      simp only [if_true, hneg, hpos]
      rw [Bool.not_true] at hu
      rw [hu]
    | false =>
      rw [ht] at hu
      simp only [Bool.false_eq_true, if_false, hneg, hpos]
      rw [Bool.not_false] at hu
      rw [hu]
  · exact {
      inst := h.inst
      known := hprops ▸ h.known
      knows := fun c hc l hl => hknows _ (h.knows c hc l hl)
      counts_eq := hcounts
      tally := hsound }

end Problem

end FlipSat
