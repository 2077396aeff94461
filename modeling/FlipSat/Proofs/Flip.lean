import FlipSat.Proofs.Operation
import Mathlib

/-
  FlipSat: what a flip does to everything that a problem keeps.
  A flip visits the clauses that gain a true literal (`Problem.gaining`) and then those that lose
  one (`Problem.losing`), both in ascending order. `gainAll_of_prefix` and `loseAll_of_prefix` say
  what has happened when it has come so far; a clause that holds the proposition both ways has a
  true literal at every moment, so it never stands in the list (`Reflects.spared`). `Flipped`
  collects the effect, the order of the list included, and `flip_exact` says that it is the effect
  of every flip of a reachable problem, unless the proposition is not one of the assignment's own.
-/
namespace FlipSat

/-- The places of the clauses that hold under the values `w` and did not under `v`, in ascending
    order. -/
def Formula.newlyHolding (f : Formula) (v w : String → Option Bool) : List Nat :=
  (List.range f.length).filter fun i => f[i]?.any fun c => !c.holds v && c.holds w

theorem Assignment.values_flip {a b : Assignment} {x : Proposition}
    (he : Enumerated a.propositions) (hx : a.Knows x) (hb : a.flip x = .ok b) :
    b.values.toList = a.values.toList.modify x.place not := by
  obtain ⟨k, hs, hplace, -⟩ := slot_of_knows hx
  have hk : x.place = k.val :=
    Option.some.inj ((listPlace?_of_mem he hx.mem).symm.trans hplace)
  rw [flip, hs] at hb
  cases hb
  rw [hk]
  refine List.ext_getElem? fun j => ?_
  simp only [flipAt, Array.toList_set, List.getElem?_set, List.getElem?_modify]
  by_cases hj : k.val = j
  · subst hj
    simp
  · simp [hj]

namespace Problem

variable {p q : Problem} {f : Formula} {x : Proposition} {i : Nat} {is : List Nat}

/-- The clauses that mention a proposition with the value that it does not have. -/
def gaining (p : Problem) (x : Proposition) : List Nat :=
  if p.assignment.truth x then (p.occurrencesOf x).negative.toList
  else (p.occurrencesOf x).positive.toList

/-- The clauses that mention a proposition with the value that it has. -/
def losing (p : Problem) (x : Proposition) : List Nat :=
  if p.assignment.truth x then (p.occurrencesOf x).positive.toList
  else (p.occurrencesOf x).negative.toList

/-- The problem `q` is `p` after a flip of `x`. Of the two literals of `x` the one written with
    `p.assignment.truth x` becomes true, and the other one becomes false. -/
structure Flipped (p q : Problem) (f : Formula) (x : Proposition) : Prop where
  inst_eq : q.inst = p.inst
  noise_eq : q.noise = p.noise
  flips_eq : q.flips = p.flips + 1
  propositions_eq : q.assignment.propositions = p.assignment.propositions
  value_eq : p.assignment.value x = .ok (p.assignment.truth x)
  values_eq : q.assignment.values.toList = p.assignment.values.toList.modify x.place not
  size_eq : p.tally.counts.size = f.length ∧ q.tally.counts.size = f.length
  count_kept : ∀ (i : Nat) (c : ClauseSpec), f[i]? = some c →
    (⟨x.name, true⟩ ∈ c ↔ ⟨x.name, false⟩ ∈ c) → q.tally.counts[i]? = p.tally.counts[i]?
  count_gained : ∀ (i : Nat) (c : ClauseSpec), f[i]? = some c →
    ⟨x.name, p.assignment.truth x⟩ ∈ c → ⟨x.name, !p.assignment.truth x⟩ ∉ c →
    q.tally.counts[i]? = p.tally.counts[i]?.map (· + 1)
  count_lost : ∀ (i : Nat) (c : ClauseSpec), f[i]? = some c →
    ⟨x.name, p.assignment.truth x⟩ ∉ c → ⟨x.name, !p.assignment.truth x⟩ ∈ c →
    q.tally.counts[i]? = p.tally.counts[i]?.map (· - 1)
  list_eq : q.tally.unsatisfied.toList =
    (f.newlyHolding p.valuation.valueOf q.valuation.valueOf).foldl DenseSet.swapErase
        p.tally.unsatisfied.toList ++
      f.newlyHolding q.valuation.valueOf p.valuation.valueOf
  tally_eq : q.tally = (p.tally.gainAll (p.gaining x)).1.loseAll (p.losing x)
  spared : ∀ (i : Nat) (c : ClauseSpec), f[i]? = some c →
    ⟨x.name, true⟩ ∈ c → ⟨x.name, false⟩ ∈ c →
    (∀ is, is <+: p.gaining x → i ∉ (p.tally.gainAll is).1.unsatisfied.toList) ∧
    ∀ is, is <+: p.losing x →
      i ∉ ((p.tally.gainAll (p.gaining x)).1.loseAll is).unsatisfied.toList

theorem Reflects.size_counts (h : p.Reflects f) : p.tally.counts.size = f.length := by
  simpa using congrArg List.length h.toList_counts

/-! ## The clauses that a flip visits -/

theorem Consistent.gaining_eq (h : p.Consistent) (hx : p.assignment.Knows x) :
    p.gaining x = holders p.inst.clauses.toList ⟨x, !p.assignment.truth x⟩ := by
  have hex := h.exact hx
  unfold gaining
  cases p.assignment.truth x with
  | true => exact hex.negative
  | false => exact hex.positive

theorem Consistent.losing_eq (h : p.Consistent) (hx : p.assignment.Knows x) :
    p.losing x = holders p.inst.clauses.toList ⟨x, p.assignment.truth x⟩ := by
  have hex := h.exact hx
  unfold losing
  cases p.assignment.truth x with
  | true => exact hex.positive
  | false => exact hex.negative

theorem Reflects.mem_gaining (h : p.Reflects f) (hx : p.assignment.Knows x) :
    i ∈ p.gaining x ↔ ∃ c, f[i]? = some c ∧ ⟨x.name, p.assignment.truth x⟩ ∈ c := by
  rw [h.consistent.gaining_eq hx, h.mem_holders (h.consistent.mem_vocabulary hx), Bool.not_not]

theorem Reflects.mem_losing (h : p.Reflects f) (hx : p.assignment.Knows x) :
    i ∈ p.losing x ↔ ∃ c, f[i]? = some c ∧ ⟨x.name, !p.assignment.truth x⟩ ∈ c := by
  rw [h.consistent.losing_eq hx, h.mem_holders (h.consistent.mem_vocabulary hx)]

/-! ## The tally in the course of a flip -/

/-- The tally when a flip has visited the first of the clauses that gain. -/
theorem Consistent.gainAll_of_prefix (h : p.Consistent) (hx : p.assignment.Knows x)
    (his : is <+: p.gaining x) :
    ∃ u, p.tally.gainAll is = (u, none) ∧ u.Sound ∧
      (∀ j : Nat, u.counts[j]? = p.tally.counts[j]?.map fun n => if j ∈ is then n + 1 else n) ∧
      u.unsatisfied.toList = (is.filter fun i => p.tally.counts[i]? == some 0).foldl
        DenseSet.swapErase p.tally.unsatisfied.toList := by
  rw [h.gaining_eq hx] at his
  exact Tally.gainAll_spec h.tally (his.sublist.nodup (nodup_holders _ _))
    fun i hi => h.count_of_holders _ i (his.subset hi)

/-- The clauses that lose a true literal have one. -/
theorem Consistent.count_of_losing (h : p.Consistent) (hx : p.assignment.Knows x) :
    ∀ i ∈ p.losing x, ∃ n, p.tally.counts[i]? = some n ∧ 0 < n := by
  have hnone : ∀ j : Nat, p.tally.counts[j]? =
      p.tally.counts[j]?.map fun n => if j ∈ ([] : List Nat) then n + 1 else n := by simp
  rw [h.losing_eq hx]
  exact h.count_of_gained (by simp [Assignment.satisfies]) hnone

/-- The tally when a flip has visited all clauses that gain, and the first of those that lose. -/
theorem Consistent.loseAll_of_prefix (h : p.Consistent) (hx : p.assignment.Knows x)
    (his : is <+: p.losing x) :
    ((p.tally.gainAll (p.gaining x)).1.loseAll is).Sound ∧
      (∀ j : Nat, ((p.tally.gainAll (p.gaining x)).1.loseAll is).counts[j]? =
        p.tally.counts[j]?.map fun n =>
          (n + if j ∈ p.gaining x then 1 else 0) - if j ∈ is then 1 else 0) ∧
      ((p.tally.gainAll (p.gaining x)).1.loseAll is).unsatisfied.toList =
        (p.tally.gainAll (p.gaining x)).1.unsatisfied.toList ++
          is.filter fun i => (p.tally.gainAll (p.gaining x)).1.counts[i]? == some 1 := by
  obtain ⟨u, hu, hus, huc, -⟩ := h.gainAll_of_prefix hx (List.prefix_refl _)
  rw [h.losing_eq hx] at his
  have hpos := h.count_of_gained (l := ⟨x, p.assignment.truth x⟩) (by simp [Assignment.satisfies])
    huc
  obtain ⟨hs, hc, hl⟩ := Tally.loseAll_spec hus (his.sublist.nodup (nodup_holders _ _))
    fun i hi => hpos i (his.subset hi)
  rw [hu]
  refine ⟨hs, fun j => ?_, hl⟩
  rw [hc, huc, Option.map_map]
  refine congrArg (Option.map · _) (funext fun n => ?_)
  by_cases hg : j ∈ p.gaining x <;> by_cases hl : j ∈ is <;> simp [hg, hl]

/-- The tally that a flip leaves. -/
theorem tally_of_flip (hx : p.assignment.Knows x) (hq : p.flip x = (q, none)) :
    q.tally = (p.tally.gainAll (p.gaining x)).1.loseAll (p.losing x) := by
  obtain ⟨b, hb, -⟩ := Assignment.flip_of_knows hx
  unfold flip at hq
  rw [Assignment.value_of_knows hx, hb] at hq
  unfold gaining losing
  cases ht : p.assignment.truth x with
  | true =>
    simp only [ht, if_true] at hq ⊢
    split at hq <;> cases hq
    rfl
  | false =>
    simp only [ht, Bool.false_eq_true, if_false] at hq ⊢
    split at hq <;> cases hq
    rfl

/-- A clause that holds the proposition both ways does not stand in the list at any moment of the
    flip. -/
theorem Reflects.spared (h : p.Reflects f) (hx : p.assignment.Knows x)
    (hg : i ∈ p.gaining x) (hl : i ∈ p.losing x) :
    (∀ is, is <+: p.gaining x → i ∉ (p.tally.gainAll is).1.unsatisfied.toList) ∧
      ∀ is, is <+: p.losing x →
        i ∉ ((p.tally.gainAll (p.gaining x)).1.loseAll is).unsatisfied.toList := by
  -- The clause starts with a true literal, and gains one before it loses one.
  obtain ⟨n, hn, hpos⟩ := h.consistent.count_of_losing hx i hl
  constructor
  · intro is his
    obtain ⟨u, hu, hus, huc, -⟩ := h.consistent.gainAll_of_prefix hx his
    rw [hu, hus.mem_iff, huc, hn, Option.map_some, Option.some.injEq]
    split <;> omega
  · intro is his
    obtain ⟨hus, huc, -⟩ := h.consistent.loseAll_of_prefix hx his
    rw [hus.mem_iff, huc, hn, Option.map_some, Option.some.injEq, if_pos hg]
    split <;> omega

/-! ## What a flip leaves -/

/-- The count of a clause after a flip. -/
theorem Reflects.count_of_flip (h : p.Reflects f) (hq : p.flip x = (q, none)) {c : ClauseSpec}
    (hf : f[i]? = some c) : q.tally.counts[i]? = p.tally.counts[i]?.map fun n =>
      (n + if ⟨x.name, p.assignment.truth x⟩ ∈ c then 1 else 0) -
        if ⟨x.name, !p.assignment.truth x⟩ ∈ c then 1 else 0 := by
  obtain ⟨hx, -⟩ := h.of_flip hq
  have hg : i ∈ p.gaining x ↔ ⟨x.name, p.assignment.truth x⟩ ∈ c := by
    rw [h.mem_gaining hx, hf]
    simp
  have hl : i ∈ p.losing x ↔ ⟨x.name, !p.assignment.truth x⟩ ∈ c := by
    rw [h.mem_losing hx, hf]
    simp
  rw [tally_of_flip hx hq, (h.consistent.loseAll_of_prefix hx (List.prefix_refl _)).2.1]
  simp only [hg, hl]

/-- A clause has count zero exactly if it does not hold. -/
theorem Reflects.exists_count (h : p.Reflects f) {c : ClauseSpec} (hf : f[i]? = some c) :
    ∃ n : Int, p.tally.counts[i]? = some n ∧ 0 ≤ n ∧
      (n = 0 ↔ c.holds p.valuation.valueOf = false) := by
  refine ⟨_, by rw [h.counts_eq, hf]; rfl, Int.natCast_nonneg _, ?_⟩
  rw [Int.natCast_eq_zero, ClauseSpec.countP_eq_zero_iff, ClauseSpec.holds_eraseDups]

/-- Of the clauses that gain, those without a true literal are the ones that hold now. Of those that
    lose, the ones with one true literal when their turn comes hold no more. -/
theorem Reflects.places_of_flip (h : p.Reflects f) (hq : p.flip x = (q, none)) {c : ClauseSpec}
    (hf : f[i]? = some c) :
    (i ∈ p.gaining x ∧ p.tally.counts[i]? = some 0 ↔
      c.holds p.valuation.valueOf = false ∧ c.holds q.valuation.valueOf = true) ∧
    (i ∈ p.losing x ∧ (p.tally.gainAll (p.gaining x)).1.counts[i]? = some 1 ↔
      c.holds q.valuation.valueOf = false ∧ c.holds p.valuation.valueOf = true) := by
  obtain ⟨hx, hqr, -⟩ := h.of_flip hq
  obtain ⟨n, hn, hn0, hp⟩ := h.exists_count hf
  obtain ⟨m, hm, hm0, hq0⟩ := hqr.exists_count hf
  obtain ⟨u, hu, -, huc, -⟩ := h.consistent.gainAll_of_prefix hx (List.prefix_refl (p.gaining x))
  have hmn := congrArg (fun t : Tally => t.counts[i]?) (tally_of_flip hx hq)
  rw [(h.consistent.loseAll_of_prefix hx (List.prefix_refl _)).2.1, hm, hn, Option.map_some,
    Option.some.injEq] at hmn
  have hpos : i ∈ p.losing x → 0 < n := by
    intro hl
    obtain ⟨k, hk, hkpos⟩ := h.consistent.count_of_losing hx i hl
    rw [hn, Option.some.injEq] at hk
    omega
  rw [hu, huc, hn, Option.map_some, Option.some.injEq, Option.some.injEq, ← Bool.not_eq_false,
    ← Bool.not_eq_false, ← hp, ← hq0]
  by_cases hg : i ∈ p.gaining x <;> by_cases hl : i ∈ p.losing x <;>
    simp only [hg, hl, if_true, if_false, true_and, false_and, false_iff, forall_const,
      false_implies] at hmn hpos ⊢ <;> omega

/-- Holders of a literal with some property, as places of the list with a property. -/
theorem filter_holders {cs : List Clause} {l : Literal} {n : Nat} (hn : cs.length = n)
    {r s : Nat → Bool} (h : ∀ i < n, i ∈ holders cs l ∧ r i = true ↔ s i = true) :
    (holders cs l).filter r = (List.range n).filter s := by
  rw [holders, hn, List.filter_filter]
  refine List.filter_congr fun i hi => ?_
  rw [Bool.eq_iff_iff, Bool.and_eq_true, ← h i (List.mem_range.mp hi), FlipSat.mem_holders]
  exact and_comm

/-- The list after a flip: what holds now has left it, and what holds no more comes last. -/
theorem Reflects.list_of_flip (h : p.Reflects f) (hq : p.flip x = (q, none)) :
    q.tally.unsatisfied.toList =
      (f.newlyHolding p.valuation.valueOf q.valuation.valueOf).foldl DenseSet.swapErase
          p.tally.unsatisfied.toList ++
        f.newlyHolding q.valuation.valueOf p.valuation.valueOf := by
  obtain ⟨hx, -⟩ := h.of_flip hq
  have hlen : p.inst.clauses.toList.length = f.length := h.clauseCount_eq
  obtain ⟨u, hu, -, -, hgained⟩ :=
    h.consistent.gainAll_of_prefix hx (List.prefix_refl (p.gaining x))
  obtain ⟨-, -, hlost⟩ := h.consistent.loseAll_of_prefix hx (List.prefix_refl (p.losing x))
  have hgains : (p.gaining x).filter (fun i => p.tally.counts[i]? == some 0) =
      f.newlyHolding p.valuation.valueOf q.valuation.valueOf := by
    rw [h.consistent.gaining_eq hx]
    refine filter_holders hlen fun i hi => ?_
    have hf : f[i]? = some f[i] := List.getElem?_eq_getElem hi
    rw [← h.consistent.gaining_eq hx, beq_iff_eq, (h.places_of_flip hq hf).1, hf]
    simp
  have hloses : (p.losing x).filter
      (fun i => (p.tally.gainAll (p.gaining x)).1.counts[i]? == some 1) =
      f.newlyHolding q.valuation.valueOf p.valuation.valueOf := by
    rw [h.consistent.losing_eq hx]
    refine filter_holders hlen fun i hi => ?_
    have hf : f[i]? = some f[i] := List.getElem?_eq_getElem hi
    rw [← h.consistent.losing_eq hx, beq_iff_eq, (h.places_of_flip hq hf).2, hf]
    simp
  rw [tally_of_flip hx hq, hlost, hloses, hu, hgained, hgains]

/-- The effect of a flip that succeeds. -/
theorem Reflects.flipped (h : p.Reflects f) (hq : p.flip x = (q, none)) : p.Flipped q f x := by
  obtain ⟨hx, hqr, hinst, hnoise, hflips, ha⟩ := h.of_flip hq
  obtain ⟨hprops, -⟩ := h.truth_of_flip hq
  refine {
    inst_eq := hinst
    noise_eq := hnoise
    flips_eq := hflips
    propositions_eq := hprops
    value_eq := Assignment.value_of_knows hx
    values_eq := Assignment.values_flip h.consistent.enumerated hx ha
    size_eq := ⟨h.size_counts, hqr.size_counts⟩
    count_kept := ?_
    count_gained := ?_
    count_lost := ?_
    list_eq := h.list_of_flip hq
    tally_eq := tally_of_flip hx hq
    spared := ?_ }
  · intro i c hf hboth
    have hsame : ⟨x.name, p.assignment.truth x⟩ ∈ c ↔ ⟨x.name, !p.assignment.truth x⟩ ∈ c := by
      cases p.assignment.truth x with
      | true => exact hboth
      | false => exact hboth.symm
    rw [h.count_of_flip hq hf]
    simp only [hsame, add_sub_cancel_right, Option.map_id']
  · intro i c hf hgain hlose
    simp only [h.count_of_flip hq hf, if_pos hgain, if_neg hlose, sub_zero]
  · intro i c hf hgain hlose
    simp only [h.count_of_flip hq hf, if_neg hgain, if_pos hlose, add_zero]
  · intro i c hf htrue hfalse
    have hboth : ∀ b, ⟨x.name, b⟩ ∈ c := by
      intro b
      cases b with
      | true => exact htrue
      | false => exact hfalse
    exact h.spared hx ((h.mem_gaining hx).mpr ⟨c, hf, hboth _⟩)
      ((h.mem_losing hx).mpr ⟨c, hf, hboth _⟩)

/-! ## Reachable problems -/

variable {σ : Type}

/-- Is an index too far below zero to count from the end? -/
def Beneath (t : Session σ) (x : Proposition) : Prop :=
  x.index < -t.problem.assignment.propositions.size

/-- The propositions of a vocabulary have no index below zero. -/
theorem not_beneath_of_mem {t : Session σ} {xs : Array Proposition} (h : Enumerated xs)
    (hx : x ∈ xs) : ¬ Beneath t x := by
  have hindex := h.index_eq_place hx
  unfold Beneath
  omega

variable [RandomSource σ]

/-- A flip of the proposition fails with a fault of a kind, and changes nothing. -/
def Refuses (t : Session σ) (x : Proposition) (kind : String) : Prop :=
  ∃ e : Fault, e.kind = kind ∧ t.perform (.flip x) = ⟨t.problem, t.source, some e⟩

theorem refuses_of_not_knows {t : Session σ} (hx : ¬ t.problem.assignment.Knows x) :
    (¬ Beneath t x → Refuses t x "KeyError") ∧ (Beneath t x → Refuses t x "IndexError") := by
  have hperform : t.perform (.flip x) =
      ⟨t.problem, t.source, some (t.problem.assignment.refusal x)⟩ := by
    rw [Session.perform, flip_of_not_knows hx]
  constructor
  · intro hwithin
    have hrefusal : t.problem.assignment.refusal x = .unknownProposition x.name := if_neg hwithin
    exact ⟨_, rfl, hrefusal ▸ hperform⟩
  · intro hbeneath
    have hrefusal : t.problem.assignment.refusal x = .noSuchPlace := if_pos hbeneath
    exact ⟨_, rfl, hrefusal ▸ hperform⟩

/-- A proposition of the same name at the same index is not known if it is of another
    vocabulary. -/
theorem Consistent.not_knows_foreign (h : p.Consistent) (hx : x ∈ p.assignment.propositions)
    {v : Nat} (hv : v ≠ x.vocabulary) : ¬ p.assignment.Knows { x with vocabulary := v } := by
  intro hk
  have hknown : p.assignment.Knows x := Assignment.knows_of_mem h.enumerated hx
  have heq : x = { x with vocabulary := v } := Assignment.eq_of_knows hknown hk rfl
  exact hv (congrArg Proposition.vocabulary heq).symm

/-- A proposition made for a name that the formula does not have is not known. -/
theorem Reflects.not_knows_new (h : p.Reflects f) {name : String}
    (hn : name ∉ f.flatten.map (·.name)) :
    ¬ (p.proposition name).2.assignment.Knows (p.proposition name).1 := by
  intro hk
  have hname : (p.proposition name).1.name = name :=
    Vocabulary.name_intern h.consistent.inst.vocabulary name
  have hmem : (p.proposition name).1.name ∈ p.assignment.propositions.toList.map (·.name) :=
    List.mem_map_of_mem (Array.mem_toList_iff.mpr hk.mem)
  rw [h.names_eq, List.mem_eraseDups, hname] at hmem
  exact hn hmem

/-- A flip of a reachable problem has one of two effects. If the proposition is not the very one
    that its index leads to, such as one of another vocabulary or one made later, the flip fails and
    changes nothing; an index too far below zero is a fault of another kind than the rest. Otherwise
    the flip inverts one value, and counts and list follow. -/
theorem flip_exact (hne : ∀ c ∈ f, c ≠ []) (noise : Percent) (given : Option Valuation)
    (source : σ) :
    ∃ p s, build f (.int noise.val) given source = .ok (p, s) ∧ ∀ os : List Operation,
      let t := Session.performAll ⟨p, s, none⟩ os
      (∀ x, t.problem.assignment.standing? x.index = some x →
        ∃ q, t.perform (.flip x) = ⟨q, t.source, none⟩ ∧ t.problem.Flipped q f x) ∧
      (∀ x, t.problem.assignment.standing? x.index ≠ some x →
        (¬ Beneath t x → Refuses t x "KeyError") ∧ (Beneath t x → Refuses t x "IndexError")) ∧
      (∀ x ∈ t.problem.assignment.propositions, ∀ v ≠ x.vocabulary,
        Refuses t { x with vocabulary := v } "KeyError") ∧
      (∀ name ∉ f.flatten.map (·.name),
        Refuses (t.perform (.proposition name)) (t.problem.proposition name).1 "KeyError") ∧
      ∀ l : Literal, t.perform (.flipLiteral l) = t.perform (.flip l.proposition) := by
  obtain ⟨p, s, hbuild, hreach⟩ := build_performAll hne noise given source
  refine ⟨p, s, hbuild, fun os => ?_⟩
  intro t
  have ht : t.problem.Reflects f := hreach os
  refine ⟨?_, ?_, ?_, ?_, fun l => rfl⟩
  · intro x hx
    obtain ⟨q, hq, -⟩ := flip_of_knows ht.consistent hx
    exact ⟨q, by rw [Session.perform, hq], ht.flipped hq⟩
  · intro x hx
    exact refuses_of_not_knows hx
  · intro x hx v hv
    have hwithin : ¬ Beneath t x := not_beneath_of_mem ht.consistent.enumerated hx
    exact (refuses_of_not_knows (ht.consistent.not_knows_foreign hx hv)).1 hwithin
  · intro name hn
    have hvocabulary := ht.consistent.inst.vocabulary
    exact (refuses_of_not_knows (t := t.perform (.proposition name)) (ht.not_knows_new hn)).1
      (not_beneath_of_mem (hvocabulary.intern name).enumerated
        (Vocabulary.mem_intern hvocabulary name))

/-- A flip that changes the counts of three clauses of four, and of one of them twice, and two
    flips that fail. -/
theorem flip_exact_of_four :
    let f : Formula :=
      [[⟨"a", true⟩, ⟨"a", false⟩], [⟨"a", false⟩], [⟨"a", true⟩, ⟨"b", false⟩], [⟨"b", true⟩]]
    ∃ p s, build f (.int 0) (some [("a", false), ("b", false)]) (Script.mk []) = .ok (p, s) ∧
      (∃ q, Session.perform ⟨p, s, none⟩ (.flip ⟨"a", 0, 0⟩) = ⟨q, s, none⟩ ∧
        p.Flipped q f ⟨"a", 0, 0⟩) ∧
      Refuses ⟨p, s, none⟩ ⟨"a", 0, 1⟩ "KeyError" ∧
      Refuses ⟨p, s, none⟩ ⟨"a", -5, 1⟩ "IndexError" := by
  intro f
  obtain ⟨p, s, hbuild, hall⟩ := flip_exact (f := f) (by decide) ⟨0, by decide⟩
    (some [("a", false), ("b", false)]) (Script.mk [])
  replace hbuild : build f (.int 0) _ _ = .ok (p, s) := hbuild
  have hprops : (build f (.int 0) (some [("a", false), ("b", false)]) (Script.mk [])).map
      (fun r => r.1.assignment.propositions) = .ok #[⟨"a", 0, 0⟩, ⟨"b", 1, 0⟩] := by cbv
  rw [hbuild] at hprops
  replace hprops : p.assignment.propositions = #[⟨"a", 0, 0⟩, ⟨"b", 1, 0⟩] :=
    Except.ok.inj hprops
  have hstanding : ∀ i, p.assignment.standing? i =
      (listPlace? 2 i).bind fun k => #[⟨"a", 0, 0⟩, ⟨"b", 1, 0⟩][k]? := by
    intro i
    rw [Assignment.standing?, hprops]
    rfl
  obtain ⟨hknown, hunknown, -⟩ := hall []
  have hfirst : p.assignment.standing? 0 = some ⟨"a", 0, 0⟩ := by rw [hstanding]; rfl
  have hforeign : p.assignment.standing? 0 ≠ some ⟨"a", 0, 1⟩ := by rw [hfirst]; decide
  have hnone : p.assignment.standing? (-5) ≠ some ⟨"a", -5, 1⟩ := by rw [hstanding]; decide
  have hsize : p.assignment.propositions.size = 2 := by rw [hprops]; rfl
  refine ⟨p, s, hbuild, hknown ⟨"a", 0, 0⟩ hfirst, (hunknown ⟨"a", 0, 1⟩ hforeign).1 ?_,
    (hunknown ⟨"a", -5, 1⟩ hnone).2 ?_⟩
  · show ¬ (0 : Int) < -p.assignment.propositions.size
    rw [hsize]
    decide
  · show (-5 : Int) < -p.assignment.propositions.size
    rw [hsize]
    decide

end Problem

end FlipSat
