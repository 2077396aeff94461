import FlipSat.Proofs.Problem

/-
  FlipSat: what the bookkeeping of a problem says of the formula that it was built from.
  `Reflects` is the invariant of a search: the problem is consistent, and its clauses and names are
  those of the formula. Under it the count of a clause is the number of its different true literals
  (`Reflects.counts_eq`), the members of the set are the clauses without any
  (`Reflects.count_slots`), the number of satisfied clauses is what an evaluation of the formula as
  written gives (`Reflects.satisfiedCount_eq`), and so is the answer to whether all are
  (`Reflects.isSolved_eq`).
  `build_spec`: every formula without empty clauses has a problem that reflects it.
-/
namespace FlipSat

theorem Percent.ofValue_int (n : Percent) : Percent.ofValue (.int n.val) = .ok n := by
  have h : 0 ≤ (n.val : Int) ∧ (n.val : Int) ≤ 100 := ⟨by omega, by have := n.val_le; omega⟩
  simp only [ofValue, dif_pos h]
  rfl

namespace ClauseSpec

/-- Repeated literals do not matter to whether a clause holds. -/
theorem holds_eraseDups (v : String → Option Bool) (c : ClauseSpec) :
    ClauseSpec.holds v c.eraseDups = c.holds v := by
  rw [holds, holds, Bool.eq_iff_iff, List.any_eq_true, List.any_eq_true]
  simp only [List.mem_eraseDups]

theorem countP_eq_zero_iff (v : String → Option Bool) (c : ClauseSpec) :
    c.countP (·.holds v) = 0 ↔ c.holds v = false := by
  rw [List.countP_eq_zero, holds, List.any_eq_false]

end ClauseSpec

/-- The places of a list whose entries have some property are as many as those entries. -/
theorem length_filter_range {α : Type} (as : List α) (q : α → Bool) :
    ((List.range as.length).filter fun i => as[i]?.any q).length = as.countP q := by
  have hrange : (List.range as.length).map (as[·]?) = as.map some := by
    refine List.ext_getElem (by simp) fun i h1 h2 => ?_
    have hi : i < as.length := by simpa using h2
    simp [hi]
  have hcount := congrArg (List.countP (Option.any q)) hrange
  rw [List.countP_map, List.countP_map] at hcount
  rw [← List.countP_eq_length_filter]
  exact hcount

namespace Problem

variable {p q : Problem} {f : Formula} {x : Proposition}

/-- The problem with some other noise. -/
def withNoise (p : Problem) (n : Percent) : Problem := { p with noise := n }

/-- The problem is one of the formula, and its bookkeeping is consistent. -/
structure Reflects (p : Problem) (f : Formula) : Prop where
  consistent : p.Consistent
  specs_eq : p.inst.specs = f.map List.eraseDups
  names_eq : p.assignment.propositions.toList.map (·.name) =
    (f.flatten.map (·.name)).eraseDups

theorem setNoise_inv {v : Value} (hq : p.setNoise v = .ok q) : ∃ n, q = p.withNoise n := by
  unfold setNoise at hq
  cases hv : Percent.ofValue v with
  | error e =>
    rw [hv] at hq
    cases hq
  | ok n =>
    rw [hv] at hq
    cases hq
    exact ⟨n, rfl⟩

theorem setNoise_int (p : Problem) (n : Percent) :
    p.setNoise (.int n.val) = .ok (p.withNoise n) := by
  rw [setNoise, Percent.ofValue_int]
  rfl

namespace Reflects

theorem getElem?_clauses (h : p.Reflects f) (i : Nat) :
    p.inst.clauses[i]?.map (fun c => c.literals.map Literal.spec) = f[i]?.map List.eraseDups := by
  have hi := congrArg (·[i]?) h.specs_eq
  simpa [Instance.specs] using hi

theorem clauseCount_eq (h : p.Reflects f) : p.clauseCount = f.length := by
  have hl := congrArg List.length h.specs_eq
  simpa [Instance.specs, clauseCount] using hl

/-- Each clause of the problem is one of the formula, without its repetitions. -/
theorem exists_spec (h : p.Reflects f) {c : Clause} (hc : c ∈ p.inst.clauses) :
    ∃ spec ∈ f, spec.eraseDups = c.literals.map Literal.spec := by
  have hmem : c.literals.map Literal.spec ∈ p.inst.specs :=
    List.mem_map_of_mem (Array.mem_toList_iff.mpr hc)
  rw [h.specs_eq] at hmem
  exact List.mem_map.mp hmem

/-- A clause of the problem holds a literal if the clause of the formula does. -/
theorem mem_holders (h : p.Reflects f) (hx : x ∈ p.inst.vocabulary.propositions) (b : Bool)
    {i : Nat} :
    i ∈ holders p.inst.clauses.toList ⟨x, b⟩ ↔ ∃ c, f[i]? = some c ∧ ⟨x.name, !b⟩ ∈ c := by
  have hspec : ∀ c ∈ p.inst.clauses,
      (⟨x, b⟩ ∈ c.literals ↔ ⟨x.name, !b⟩ ∈ c.literals.map Literal.spec) := by
    intro c hc
    constructor
    · intro hl
      exact List.mem_map_of_mem (f := Literal.spec) hl
    · intro hs
      obtain ⟨l, hl, he⟩ := List.mem_map.mp hs
      have hlx : l = ⟨x, b⟩ := h.consistent.inst.vocabulary.enumerated.eq_of_spec_eq
        (h.consistent.inst.own c hc l hl) hx he
      exact hlx ▸ hl
  have hi := h.getElem?_clauses i
  rw [FlipSat.mem_holders, holdsAt_iff, Array.getElem?_toList]
  constructor
  · rintro ⟨c, hc, hl⟩
    rw [hc] at hi
    obtain ⟨spec, hf, hs⟩ := Option.map_eq_some_iff.mp hi.symm
    refine ⟨spec, hf, ?_⟩
    rw [← List.mem_eraseDups, hs]
    exact (hspec c (Array.mem_of_getElem? hc)).mp hl
  · rintro ⟨spec, hf, hs⟩
    rw [hf] at hi
    obtain ⟨c, hc, he⟩ := Option.map_eq_some_iff.mp hi
    refine ⟨c, hc, (hspec c (Array.mem_of_getElem? hc)).mpr ?_⟩
    rw [he, List.mem_eraseDups]
    exact hs

theorem countP_spec (h : p.Reflects f) {c : Clause} (hc : c ∈ p.inst.clauses) :
    (c.literals.map Literal.spec).countP (·.holds p.valuation.valueOf) =
      c.literals.countP p.assignment.satisfies := by
  rw [List.countP_map]
  exact List.countP_congr fun l hl => by
    rw [Function.comp_apply, valuation,
      Assignment.holds_spec h.consistent.enumerated (h.consistent.knows c hc l hl)]

/-- The count of a clause is the number of its different true literals. -/
theorem counts_eq (h : p.Reflects f) (i : Nat) : p.tally.counts[i]? =
    f[i]?.map fun c => (c.eraseDups.countP (·.holds p.valuation.valueOf) : Int) := by
  have hi := h.getElem?_clauses i
  rw [h.consistent.counts_eq]
  cases hc : p.inst.clauses[i]? with
  | none =>
    rw [hc] at hi
    rw [Option.map_eq_none_iff.mp hi.symm]
    rfl
  | some c =>
    rw [hc, Option.map_some] at hi
    obtain ⟨spec, hf, hs⟩ := Option.map_eq_some_iff.mp hi.symm
    rw [hf, Option.map_some, Option.map_some, hs, h.countP_spec (Array.mem_of_getElem? hc)]

theorem toList_counts (h : p.Reflects f) : p.tally.counts.toList =
    f.map fun c => (c.eraseDups.countP (·.holds p.valuation.valueOf) : Int) :=
  List.ext_getElem? fun i => by rw [Array.getElem?_toList, h.counts_eq, List.getElem?_map]

/-- A clause has one slot in the set if its count is zero, and none otherwise. -/
theorem count_slots (h : p.Reflects f) (i : Nat) :
    p.tally.unsatisfied.toList.count i = if p.tally.counts[i]? = some 0 then 1 else 0 := by
  rw [h.consistent.tally.set.nodup.count]
  exact if_congr (h.consistent.tally.mem_iff i) rfl rfl

/-- The members of the set are as many as the clauses that do not hold. -/
theorem size_unsatisfied (h : p.Reflects f) :
    p.tally.unsatisfied.size = f.countP fun c => !c.holds p.valuation.valueOf := by
  have hperm : p.tally.unsatisfied.toList.Perm
      ((List.range p.tally.counts.toList.length).filter
        fun i => p.tally.counts.toList[i]?.any (· == 0)) := by
    refine (List.perm_ext_iff_of_nodup h.consistent.tally.set.nodup
      (List.nodup_range.filter _)).mpr fun i => ?_
    rw [h.consistent.tally.mem_iff, List.mem_filter, List.mem_range, Array.getElem?_toList]
    constructor
    · intro hi
      have hlt := (Array.getElem?_eq_some_iff.mp hi).1
      exact ⟨by simpa using hlt, by simp [hi]⟩
    · rintro ⟨-, hi⟩
      obtain ⟨n, hn, h0⟩ := (Option.any_eq_true _ _).mp hi
      rw [hn, eq_of_beq h0]
  have hlen := hperm.length_eq
  rw [length_filter_range, h.toList_counts, List.countP_map] at hlen
  rw [DenseSet.size, ← Array.length_toList]
  refine hlen.trans (List.countP_congr fun c _ => ?_)
  rw [Function.comp_apply, beq_iff_eq, Int.natCast_eq_zero, ClauseSpec.countP_eq_zero_iff,
    ClauseSpec.holds_eraseDups, Bool.not_eq_true']

/-- The number of satisfied clauses is what an evaluation of the formula gives. -/
theorem satisfiedCount_eq (h : p.Reflects f) :
    p.satisfiedCount = f.countHolding p.valuation.valueOf := by
  have hsplit : f.length = _ + _ :=
    List.length_eq_countP_add_countP fun c => c.holds p.valuation.valueOf
  rw [satisfiedCount, h.clauseCount_eq, h.size_unsatisfied, Formula.countHolding]
  simp only [Bool.not_eq_true, Bool.decide_eq_false] at hsplit
  omega

/-- A problem is solved exactly if its values satisfy the formula. -/
theorem isSolved_eq (h : p.Reflects f) : p.isSolved = f.holds p.valuation.valueOf := by
  have hsize := h.size_unsatisfied
  rw [Bool.eq_iff_iff, isSolved, DenseSet.isEmpty, Array.isEmpty_iff_size_eq_zero]
  rw [DenseSet.size] at hsize
  rw [hsize, List.countP_eq_zero, Formula.holds, List.all_eq_true]
  simp

/-- By literals, the clauses of the formula that hold are the clauses with a true literal. -/
theorem countHolding_eq (h : p.Reflects f) : f.countHolding p.valuation.valueOf =
    p.inst.clauses.toList.countP fun c => c.literals.any p.assignment.satisfies := by
  have hdups : (f.map List.eraseDups).countP (ClauseSpec.holds p.valuation.valueOf) =
      f.countHolding p.valuation.valueOf := by
    rw [List.countP_map, Formula.countHolding]
    refine List.countP_congr fun c _ => ?_
    rw [Function.comp_apply, ClauseSpec.holds_eraseDups]
  rw [← hdups, ← h.specs_eq, Instance.specs, List.countP_map]
  refine List.countP_congr fun c hc => ?_
  have hc : c ∈ p.inst.clauses := Array.mem_toList_iff.mp hc
  rw [Function.comp_apply, ClauseSpec.holds, List.any_map, List.any_eq_true, List.any_eq_true]
  refine exists_congr fun l => and_congr_right fun hl => ?_
  rw [Function.comp_apply, valuation,
    Assignment.holds_spec h.consistent.enumerated (h.consistent.knows c hc l hl)]

theorem isSolved_iff (h : p.Reflects f) : p.isSolved = true ↔ p.satisfiedCount = f.length := by
  rw [h.isSolved_eq, h.satisfiedCount_eq, Formula.holds, Formula.countHolding, List.all_eq_true,
    List.countP_eq_length]

theorem satisfiedCount_le (h : p.Reflects f) : p.satisfiedCount ≤ f.length := by
  rw [h.satisfiedCount_eq]
  exact List.countP_le_length

theorem satisfiedCount_lt (h : p.Reflects f) (hs : p.isSolved = false) :
    p.satisfiedCount < f.length := by
  refine Nat.lt_of_le_of_ne h.satisfiedCount_le fun he => ?_
  rw [h.isSolved_iff.mpr he] at hs
  cases hs

/-! ## What keeps the invariant -/

/-- A flip succeeds on the propositions that the assignment knows, and leaves the problem as it is
    on all others. -/
theorem flip_cases (h : p.Reflects f) (x : Proposition) :
    (¬ p.assignment.Knows x ∧ p.flip x = (p, some (p.assignment.refusal x))) ∨
      (p.assignment.Knows x ∧ ∃ q, p.flip x = (q, none) ∧ q.Reflects f ∧ q.inst = p.inst ∧
        q.noise = p.noise ∧ q.flips = p.flips + 1 ∧
        p.assignment.flip x = .ok q.assignment) := by
  by_cases hx : p.assignment.Knows x
  · obtain ⟨q, hq, hcons, hinst, hnoise, hflips, ha⟩ := flip_of_knows h.consistent hx
    obtain ⟨b, hb, hprops, -⟩ := Assignment.flip_of_knows hx
    have hqb : q.assignment = b := Except.ok.inj (ha.symm.trans hb)
    refine .inr ⟨hx, q, hq, ⟨hcons, ?_, ?_⟩, hinst, hnoise, hflips, ha⟩
    · rw [hinst]
      exact h.specs_eq
    · rw [hqb, hprops]
      exact h.names_eq
  · exact .inl ⟨hx, flip_of_not_knows hx⟩

/-- What is known after a flip that succeeded. -/
theorem of_flip (h : p.Reflects f) (hq : p.flip x = (q, none)) :
    p.assignment.Knows x ∧ q.Reflects f ∧ q.inst = p.inst ∧ q.noise = p.noise ∧
      q.flips = p.flips + 1 ∧ p.assignment.flip x = .ok q.assignment := by
  rcases h.flip_cases x with ⟨-, hn⟩ | ⟨hx, r, hr, hrest⟩
  · rw [hn] at hq
    cases hq
  · rw [hr] at hq
    cases hq
    exact ⟨hx, hrest⟩

/-- A flip that succeeded has inverted the value of its proposition and no other. -/
theorem truth_of_flip (h : p.Reflects f) (hq : p.flip x = (q, none)) :
    q.assignment.propositions = p.assignment.propositions ∧
      ∀ y, p.assignment.Knows y → q.assignment.truth y =
        if y = x then !p.assignment.truth x else p.assignment.truth y := by
  obtain ⟨hx, -, -, -, -, ha⟩ := h.of_flip hq
  obtain ⟨b, hb, hprops, htruth⟩ := Assignment.flip_of_knows hx
  obtain rfl : q.assignment = b := Except.ok.inj (ha.symm.trans hb)
  exact ⟨hprops, htruth⟩

theorem flip (h : p.Reflects f) (x : Proposition) : (p.flip x).1.Reflects f := by
  rcases h.flip_cases x with ⟨-, hq⟩ | ⟨-, q, hq, hr, -⟩
  · rw [hq]
    exact h
  · rw [hq]
    exact hr

theorem withNoise (h : p.Reflects f) (n : Percent) : (p.withNoise n).Reflects f :=
  ⟨⟨h.consistent.inst, h.consistent.known, h.consistent.knows, h.consistent.counts_eq,
    h.consistent.tally⟩, h.specs_eq, h.names_eq⟩

theorem setNoise (h : p.Reflects f) {v : Value} (hq : p.setNoise v = .ok q) : q.Reflects f := by
  obtain ⟨n, rfl⟩ := setNoise_inv hq
  exact h.withNoise n

theorem proposition (h : p.Reflects f) (name : String) :
    (p.proposition name).2.Reflects f := by
  have hv := h.consistent.inst.vocabulary
  have hp := Vocabulary.prefix_intern p.inst.vocabulary name
  exact ⟨⟨h.consistent.inst.extend (hv.intern name) hp, h.consistent.known.trans hp,
    h.consistent.knows, h.consistent.counts_eq, h.consistent.tally⟩, h.specs_eq, h.names_eq⟩

end Reflects

/-! ## The problem of a formula -/

variable {σ : Type} [RandomSource σ]

/-- The problem that is built from an instance. -/
def ofInstance (inst : Instance) (a : Assignment) (n : Percent) : Problem where
  inst := inst
  assignment := a
  tally := .ofCounts (inst.clauses.toList.map fun c => c.literals.countP a.satisfies)
  noise := n

theorem knows_of_sound {inst : Instance} (h : inst.Sound) {a : Assignment}
    (hprops : a.propositions = inst.vocabulary.propositions) :
    ∀ c ∈ inst.clauses.toList, ∀ l ∈ c.literals, a.Knows l.proposition := by
  intro c hc l hl
  refine Assignment.knows_of_mem (hprops ▸ h.vocabulary.enumerated) ?_
  rw [hprops]
  exact h.own c (by simpa using hc) l hl

theorem build_eq {v : Value} {n : Percent} (hv : Percent.ofValue v = .ok n) {inst : Instance}
    (hinst : Instance.ofFormula f = .ok inst) (h : inst.Sound) (given : Option Valuation)
    (source : σ) :
    build f v given source = .ok
      (ofInstance inst (Assignment.starting inst.vocabulary.propositions given source).1 n,
        (Assignment.starting inst.vocabulary.propositions given source).2) := by
  have hknows := knows_of_sound h
    (Assignment.propositions_starting inst.vocabulary.propositions given source)
  rw [build, hv, hinst]
  simp only [bind, Except.bind, Assignment.initial_eq, recount_eq hknows]
  rfl

theorem reflects_ofInstance {inst : Instance} (h : inst.Sound) {a : Assignment}
    (hprops : a.propositions = inst.vocabulary.propositions)
    (hnames : inst.vocabulary.names = (f.flatten.map (·.name)).eraseDups)
    (hspecs : inst.specs = f.map List.eraseDups) (n : Percent) :
    (ofInstance inst a n).Reflects f where
  consistent :=
    { inst := h
      known := hprops ▸ List.prefix_refl _
      knows := fun c hc => knows_of_sound h hprops c (Array.mem_toList_iff.mpr hc)
      counts_eq := fun i => by
        simp only [ofInstance, Tally.ofCounts, List.getElem?_toArray, List.getElem?_map,
          Array.getElem?_toList, Option.map_map]
        rfl
      tally := Tally.sound_ofCounts _ }
  specs_eq := hspecs
  names_eq := by rw [← hnames, Vocabulary.names, ← hprops]; rfl

/-- A formula without empty clauses has a problem, whatever values are given and whatever the
    source answers. -/
theorem build_spec (hne : ∀ c ∈ f, c ≠ []) {v : Value} {n : Percent}
    (hv : Percent.ofValue v = .ok n) (given : Option Valuation) (source : σ) :
    ∃ p s, build f v given source = .ok (p, s) ∧ p.Reflects f ∧ p.noise = n ∧ p.flips = 0 := by
  obtain ⟨inst, hinst, hsound, hnames, hspecs⟩ := Instance.ofFormula_spec hne
  exact ⟨_, _, build_eq hv hinst hsound given source,
    reflects_ofInstance hsound (Assignment.propositions_starting _ given source) hnames hspecs n,
    rfl, rfl⟩

end Problem

end FlipSat
