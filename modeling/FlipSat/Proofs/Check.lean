import FlipSat.Problem.Disturbance
import FlipSat.Proofs.RandomCalls
import Mathlib

/-
  FlipSat: the check of a problem tells exactly whether its bookkeeping is right.
  `Variant` are the states that a problem can be brought into from outside: any values, any counts,
  and any set of its clauses. On each of them the check compares with a recount by the formula, and
  reports the least clause that is wrong, counts before membership (`check_of_miscounted`,
  `check_of_misplaced`, `check_eq_ok_iff`). What it checks is the invariant of the search: a variant
  that passes reflects the formula (`Variant.reflects`), so flips and steps keep it passing.
-/
namespace FlipSat

/-! ## The first place where two lists differ -/

namespace Problem

variable {α : Type} [DecidableEq α] {as bs : List α}

theorem firstDifference_eq_none_iff (h : as.length = bs.length) (k : Nat) :
    firstDifference k as bs = none ↔ as = bs := by
  induction as generalizing bs k with
  | nil =>
    cases bs with
    | nil => simp [firstDifference]
    | cons b bs => simp at h
  | cons a as ih =>
    cases bs with
    | nil => simp at h
    | cons b bs =>
      have hlen : as.length = bs.length := by simpa using h
      by_cases hab : a = b
      · simp [firstDifference, hab, ih hlen]
      · simp [firstDifference, hab]

/-- The entries at the least place where the lists differ are found with it. -/
theorem firstDifference_of_least {i : Nat} {a b : α} (ha : as[i]? = some a) (hb : bs[i]? = some b)
    (hne : a ≠ b) (hbefore : ∀ j < i, as[j]? = bs[j]?) (k : Nat) :
    firstDifference k as bs = some (k + i, a, b) := by
  induction i generalizing as bs k with
  | zero =>
    cases as <;> cases bs <;> simp_all [firstDifference]
  | succ i ih =>
    cases as with
    | nil => simp at ha
    | cons c as =>
      cases bs with
      | nil => simp at hb
      | cons d bs =>
        have hcd : c = d := by simpa using hbefore 0 (Nat.succ_pos i)
        have hrest := ih (by simpa using ha) (by simpa using hb)
          (fun j hj => by simpa using hbefore (j + 1) (Nat.succ_lt_succ hj)) (k + 1)
        rw [firstDifference, if_pos hcd, hrest, Nat.add_assoc, Nat.add_comm 1]

end Problem

/-! ## States brought about from outside -/

/-- How many different literals of clause `i` hold. -/
def Formula.trueLiterals (f : Formula) (v : String → Option Bool) (i : Nat) : Nat :=
  ((f[i]?.getD []).eraseDups).countP (·.holds v)

/-- What can be done to the bookkeeping of a problem from outside. -/
inductive Tampering where
  | add (i : Nat) (n : Int)
  | insert (i : Nat)
  | remove (i : Nat)
  | discard (i : Nat)

namespace Problem

variable {σ : Type} [RandomSource σ] {p q : Problem} {f : Formula} {i : Nat}

/-- The problem with another set of clauses to draw from. -/
def withUnsatisfied (p : Problem) (set : DenseSet Nat) : Problem :=
  { p with tally := { p.tally with unsatisfied := set } }

/-- The problem after it was tampered with. Only its own clauses are put into the set. -/
def tamper (p : Problem) : Tampering → Problem
  | .add i n => (p.disturb i (.int n)).toOption.getD p
  | .insert i =>
    if i < p.clauseCount then p.withUnsatisfied (p.tally.unsatisfied.insert i) else p
  | .remove i => ((p.tally.unsatisfied.erase? i).map p.withUnsatisfied).getD p
  | .discard i => p.withUnsatisfied (p.tally.unsatisfied.discard i)

def tamperAll (p : Problem) (ts : List Tampering) : Problem := ts.foldl tamper p

/-- The problem `q` is `p` with any other values, any other counts, and any other set of its
    clauses. -/
structure Variant (p q : Problem) : Prop where
  inst_eq : q.inst = p.inst
  propositions_eq : q.assignment.propositions = p.assignment.propositions
  size_counts : q.tally.counts.size = p.clauseCount
  set : q.tally.unsatisfied.Sound
  mem_lt : ∀ i ∈ q.tally.unsatisfied.toList, i < p.clauseCount

/-- The count of clause `i` is not the number of its different true literals. -/
def Miscounted (q : Problem) (f : Formula) (i : Nat) : Prop :=
  q.tally.count i ≠ f.trueLiterals q.valuation.valueOf i

/-- Clause `i` is in the set although its count is not zero, or the other way round. -/
def Misplaced (q : Problem) (i : Nat) : Prop :=
  ¬ (q.tally.unsatisfied.contains i = true ↔ q.tally.count i = 0)

theorem Reflects.variant (h : p.Reflects f) : p.Variant p where
  inst_eq := rfl
  propositions_eq := rfl
  size_counts := by
    have hlen := congrArg List.length h.toList_counts
    simpa [h.clauseCount_eq] using hlen
  set := h.consistent.tally.set
  mem_lt i hi := by
    have hcount := (h.consistent.tally.mem_iff i).mp hi
    rw [h.counts_eq] at hcount
    obtain ⟨c, hc, -⟩ := Option.map_eq_some_iff.mp hcount
    rw [h.clauseCount_eq]
    exact (List.getElem?_eq_some_iff.mp hc).1

namespace Variant

theorem withUnsatisfied (h : p.Variant q) {set : DenseSet Nat} (hset : set.Sound)
    (hlt : ∀ i ∈ set.toList, i < p.clauseCount) : p.Variant (q.withUnsatisfied set) :=
  ⟨h.inst_eq, h.propositions_eq, h.size_counts, hset, hlt⟩

theorem clauseCount_eq (h : p.Variant q) : q.clauseCount = p.clauseCount := by
  rw [clauseCount, h.inst_eq, clauseCount]

theorem erase (h : p.Variant q) {set : DenseSet Nat}
    (he : q.tally.unsatisfied.erase? i = some set) : p.Variant (q.withUnsatisfied set) :=
  h.withUnsatisfied (h.set.erase he) fun j hj => h.mem_lt j ((DenseSet.mem_erase h.set he).mp hj).1

theorem tamper (h : p.Variant q) (t : Tampering) : p.Variant (q.tamper t) := by
  cases t with
  | add i n =>
    rw [Problem.tamper, disturb]
    cases disturbedCount (q.tally.count i) (.int n) with
    | error e => exact h
    | ok m =>
      have hsize : (q.tally.counts.setIfInBounds i m).size = p.clauseCount := by
        rw [Array.size_setIfInBounds, h.size_counts]
      exact ⟨h.inst_eq, h.propositions_eq, hsize, h.set, h.mem_lt⟩
  | insert i =>
    rw [Problem.tamper]
    split
    · next hi =>
      refine h.withUnsatisfied (h.set.insert i) fun j hj => ?_
      rcases (DenseSet.mem_insert h.set).mp hj with hj | rfl
      · exact h.mem_lt j hj
      · rwa [← h.clauseCount_eq]
    · exact h
  | remove i =>
    rw [Problem.tamper]
    cases he : q.tally.unsatisfied.erase? i with
    | none => exact h
    | some set => exact h.erase he
  | discard i =>
    rw [Problem.tamper, DenseSet.discard]
    cases he : q.tally.unsatisfied.erase? i with
    | none => exact h.withUnsatisfied h.set h.mem_lt
    | some set => exact h.erase he

theorem tamperAll (h : p.Variant q) (ts : List Tampering) : p.Variant (q.tamperAll ts) := by
  induction ts generalizing q with
  | nil => exact h
  | cons t ts ih => exact ih (h.tamper t)

/-! ## What the check compares -/

theorem enumerated (h : p.Variant q) (hp : p.Reflects f) : Enumerated q.assignment.propositions :=
  h.propositions_eq ▸ hp.consistent.enumerated

theorem knows (h : p.Variant q) (hp : p.Reflects f) :
    ∀ c ∈ q.inst.clauses, ∀ l ∈ c.literals, q.assignment.Knows l.proposition := by
  intro c hc l hl
  rw [h.inst_eq] at hc
  exact (Assignment.knows_congr h.propositions_eq).mpr (hp.consistent.knows c hc l hl)

/-- A recount of a clause by its literals is one by the formula. -/
theorem recount_clause (h : p.Variant q) (hp : p.Reflects f) {c : Clause}
    (hc : q.inst.clauses[i]? = some c) :
    c.literals.countP q.assignment.satisfies = f.trueLiterals q.valuation.valueOf i := by
  have hclause := hp.getElem?_clauses i
  rw [← h.inst_eq, hc, Option.map_some] at hclause
  obtain ⟨spec, hf, hspec⟩ := Option.map_eq_some_iff.mp hclause.symm
  rw [Formula.trueLiterals, hf, Option.getD_some, hspec, List.countP_map]
  refine List.countP_congr fun l hl => ?_
  rw [Function.comp_apply, valuation, Assignment.holds_spec (h.enumerated hp)
    (h.knows hp c (Array.mem_of_getElem? hc) l hl)]

/-- The numbers that the check compares the counts with. -/
theorem recount_eq (h : p.Variant q) (hp : p.Reflects f) :
    recount q.assignment q.inst.clauses.toList =
      .ok ((List.range f.length).map (f.trueLiterals q.valuation.valueOf)) := by
  rw [Problem.recount_eq fun c hc => h.knows hp c (Array.mem_toList_iff.mp hc)]
  refine congrArg Except.ok (List.ext_getElem ?_ fun i h1 h2 => ?_)
  · simpa [clauseCount] using h.clauseCount_eq.trans hp.clauseCount_eq
  · have hi : i < q.inst.clauses.size := by simpa using h1
    simpa using h.recount_clause hp (Array.getElem?_eq_getElem hi)

theorem toList_counts (h : p.Variant q) (hp : p.Reflects f) :
    q.tally.counts.toList = (List.range f.length).map q.tally.count := by
  have hsize := h.size_counts.trans hp.clauseCount_eq
  refine List.ext_getElem (by simpa using hsize) fun i h1 h2 => ?_
  have hi : q.tally.counts[i]? = some q.tally.counts[i] :=
    Array.getElem?_eq_getElem (by simpa using h1)
  simpa using (Tally.count_eq hi).symm

end Variant

theorem getElem?_map_range {β : Type} (g : Nat → β) {n : Nat} (hi : i < n) :
    ((List.range n).map g)[i]? = some (g i) := by
  simp [hi]

/-- The check in terms of the formula: two comparisons over all clauses, one after the other. -/
theorem Variant.check_eq (h : p.Variant q) (hp : p.Reflects f) : q.check =
    match firstDifference 0 ((List.range f.length).map q.tally.count)
        ((List.range f.length).map fun i => (f.trueLiterals q.valuation.valueOf i : Int)) with
    | some (i, stored, actual) => .error (.inconsistent i (.count stored actual))
    | none =>
      match firstDifference 0 ((List.range f.length).map q.tally.unsatisfied.contains)
          ((List.range f.length).map q.unsatisfied) with
      | some (i, member, _) =>
        .error (.inconsistent i (if member then .surplusMember else .missingMember))
      | none => .ok () := by
  have hcasts : ((List.range f.length).map (f.trueLiterals q.valuation.valueOf)).map Int.ofNat =
      (List.range f.length).map fun i => (f.trueLiterals q.valuation.valueOf i : Int) := by
    rw [List.map_map]
    rfl
  rw [check, h.recount_eq hp, h.clauseCount_eq, hp.clauseCount_eq]
  simp only [bind, Except.bind, hcasts, h.toList_counts hp]
  cases firstDifference 0 ((List.range f.length).map q.tally.count)
    ((List.range f.length).map fun i => (f.trueLiterals q.valuation.valueOf i : Int)) with
  | some d => rfl
  | none =>
    dsimp only
    cases firstDifference 0 ((List.range f.length).map q.tally.unsatisfied.contains)
      ((List.range f.length).map q.unsatisfied) <;> rfl

/-! ## What the check reports -/

/-- The least clause with a wrong count is reported. -/
theorem Variant.check_of_miscounted (h : p.Variant q) (hp : p.Reflects f) (hi : i < f.length)
    (hwrong : q.Miscounted f i) (hleast : ∀ j < i, ¬ q.Miscounted f j) :
    q.check = .error (.inconsistent i
      (.count (q.tally.count i) (f.trueLiterals q.valuation.valueOf i))) := by
  have hfirst := firstDifference_of_least (getElem?_map_range q.tally.count hi)
    (getElem?_map_range (fun i => (f.trueLiterals q.valuation.valueOf i : Int)) hi) hwrong
    (fun j hj => by
      rw [getElem?_map_range _ (Nat.lt_trans hj hi), getElem?_map_range _ (Nat.lt_trans hj hi),
        not_not.mp (hleast j hj)]) 0
  rw [h.check_eq hp, hfirst, Nat.zero_add]

theorem counts_eq_of_not_miscounted (hcounts : ∀ i < f.length, ¬ q.Miscounted f i) :
    (List.range f.length).map q.tally.count =
      (List.range f.length).map fun i => (f.trueLiterals q.valuation.valueOf i : Int) :=
  List.map_congr_left fun i hi => not_not.mp (hcounts i (List.mem_range.mp hi))

theorem not_misplaced_iff : ¬ q.Misplaced i ↔ q.tally.unsatisfied.contains i = q.unsatisfied i := by
  have hzero : q.unsatisfied i = true ↔ q.tally.count i = 0 := decide_eq_true_iff
  rw [Misplaced, not_not, ← hzero]
  exact Bool.eq_iff_iff.symm

/-- Where all counts are right, the least clause with a wrong membership is reported. -/
theorem Variant.check_of_misplaced (h : p.Variant q) (hp : p.Reflects f)
    (hcounts : ∀ i < f.length, ¬ q.Miscounted f i) (hi : i < f.length) (hwrong : q.Misplaced i)
    (hleast : ∀ j < i, ¬ q.Misplaced j) :
    q.check = .error (.inconsistent i
      (if q.tally.unsatisfied.contains i then .surplusMember else .missingMember)) := by
  have hne : q.tally.unsatisfied.contains i ≠ q.unsatisfied i :=
    fun he => not_misplaced_iff.mpr he hwrong
  rw [h.check_eq hp, counts_eq_of_not_miscounted hcounts, firstDifference_self,
    firstDifference_of_least (getElem?_map_range _ hi) (getElem?_map_range _ hi) hne,
    Nat.zero_add]
  intro j hj
  rw [getElem?_map_range _ (Nat.lt_trans hj hi), getElem?_map_range _ (Nat.lt_trans hj hi),
    not_misplaced_iff.mp (hleast j hj)]

/-- The check finds nothing exactly if nothing is wrong. -/
theorem Variant.check_eq_ok_iff (h : p.Variant q) (hp : p.Reflects f) :
    q.check = .ok () ↔ ∀ i < f.length, ¬ q.Miscounted f i ∧ ¬ q.Misplaced i := by
  constructor
  · intro hok
    rw [h.check_eq hp] at hok
    split at hok
    · cases hok
    · next hcounts =>
      split at hok
      · cases hok
      · next hmembers =>
        rw [firstDifference_eq_none_iff (by simp)] at hcounts hmembers
        intro i hi
        have hc := congrArg (·[i]?) hcounts
        have hm := congrArg (·[i]?) hmembers
        simp only [getElem?_map_range _ hi, Option.some.injEq] at hc hm
        exact ⟨not_not.mpr hc, not_misplaced_iff.mpr hm⟩
  · intro hall
    have hmembers : (List.range f.length).map q.tally.unsatisfied.contains =
        (List.range f.length).map q.unsatisfied :=
      List.map_congr_left fun i hi => not_misplaced_iff.mp (hall i (List.mem_range.mp hi)).2
    rw [h.check_eq hp, counts_eq_of_not_miscounted fun i hi => (hall i hi).1,
      firstDifference_self, hmembers, firstDifference_self]

/-! ## What the check is enough for -/

/-- A variant that passes the check reflects the formula. -/
theorem Variant.reflects (h : p.Variant q) (hp : p.Reflects f) (hok : q.check = .ok ()) :
    q.Reflects f := by
  have hall := (h.check_eq_ok_iff hp).mp hok
  have hsize := h.size_counts.trans hp.clauseCount_eq
  refine ⟨⟨h.inst_eq ▸ hp.consistent.inst, ?_, h.knows hp, fun i => ?_, h.set, fun i => ?_⟩, ?_, ?_⟩
  · rw [h.propositions_eq, h.inst_eq]
    exact hp.consistent.known
  · cases hc : q.inst.clauses[i]? with
    | none =>
      have hle : q.tally.counts.size ≤ i := by
        rw [h.size_counts, ← h.clauseCount_eq]
        exact Array.getElem?_eq_none_iff.mp hc
      rw [Array.getElem?_eq_none hle]
      rfl
    | some c =>
      have hi : i < f.length := by
        rw [← hp.clauseCount_eq, ← h.clauseCount_eq]
        exact (Array.getElem?_eq_some_iff.mp hc).1
      have hs : q.tally.counts[i]? = some _ := Array.getElem?_eq_getElem (hsize ▸ hi)
      rw [hs, Option.map_some, h.recount_clause hp hc, ← not_not.mp (hall i hi).1,
        Tally.count_eq hs]
  · rw [← h.set.contains_iff]
    by_cases hi : i < f.length
    · have hs : q.tally.counts[i]? = some _ := Array.getElem?_eq_getElem (hsize ▸ hi)
      rw [not_not.mp (hall i hi).2, Tally.count_eq hs, hs, Option.some.injEq]
    · have hnone : q.tally.counts[i]? = none := Array.getElem?_eq_none (by omega)
      rw [h.set.contains_iff, hnone]
      simp only [reduceCtorEq, iff_false]
      exact fun hm => hi (hp.clauseCount_eq ▸ h.mem_lt i hm)
  · rw [h.inst_eq]
    exact hp.specs_eq
  · rw [h.propositions_eq]
    exact hp.names_eq

/-- Flips of propositions that the assignment has, and steps. -/
def Moves (q : Problem) : Operation → Prop
  | .flip x => x ∈ q.assignment.propositions
  | .flipLiteral l => l.proposition ∈ q.assignment.propositions
  | .step => True
  | _ => False

/-- A move has no fault, and leaves the same propositions to move. -/
theorem Reflects.perform_of_moves {s : Session σ} (h : s.problem.Reflects f) {o : Operation}
    (ho : s.problem.Moves o) : (s.perform o).fault = none ∧
      (s.perform o).problem.assignment.propositions = s.problem.assignment.propositions := by
  have hflip : ∀ x ∈ s.problem.assignment.propositions, (s.problem.flip x).2 = none ∧
      (s.problem.flip x).1.assignment.propositions = s.problem.assignment.propositions := by
    intro x hx
    have hk := Assignment.knows_of_mem h.consistent.enumerated hx
    obtain ⟨q, hq, -, -, -, -, ha⟩ := flip_of_knows h.consistent hk
    obtain ⟨b, hb, hprops, -⟩ := Assignment.flip_of_knows hk
    rw [hq, Except.ok.inj (ha.symm.trans hb)]
    exact ⟨rfl, hprops⟩
  cases o with
  | flip x => exact hflip x ho
  | flipLiteral l => exact hflip l.proposition ho
  | step =>
    refine ⟨(h.step s.source).2.1, ?_⟩
    rw [Session.perform]
    rcases h.step_cases s.source with ⟨-, he⟩ | ⟨-, c, -, -, l, q, t, -, hq, he⟩
    · rw [he]
    · have hmem := (h.of_flip hq).1.mem
      have hprops := (hflip l.proposition hmem).2
      rw [hq] at hprops
      rw [he]
      exact hprops
  | setNoise v | proposition name | delta x | greedy c => exact absurd ho id

theorem Moves.of_propositions_eq
    (h : q.assignment.propositions = p.assignment.propositions) {o : Operation} (ho : p.Moves o) :
    q.Moves o := by
  cases o <;> simp_all [Moves]

/-- After any moves there is no fault, and the check still finds nothing. -/
theorem Reflects.performAll_of_moves {s : Session σ} (h : s.problem.Reflects f)
    (hs : s.fault = none) {os : List Operation} (hos : ∀ o ∈ os, s.problem.Moves o) :
    (s.performAll os).fault = none ∧ (s.performAll os).problem.check = .ok () := by
  induction os generalizing s with
  | nil => exact ⟨hs, h.consistent.check⟩
  | cons o os ih =>
    obtain ⟨hfault, hprops⟩ := h.perform_of_moves (hos o (by simp))
    exact ih (h.perform o) hfault fun m hm => (hos m (by simp [hm])).of_propositions_eq hprops

/-- In every state that a problem can be brought into from outside, the check only looks, finds
    nothing exactly if each count is that of the different true literals and just the clauses with
    count zero are in the set, and otherwise reports the least clause that is wrong: by its count,
    if any count is wrong, and else by its membership. Where it finds nothing, no flips and steps
    will ever fail or change that. -/
theorem check_exact (hne : ∀ c ∈ f, c ≠ []) (noise : Percent) (given : Option Valuation)
    (source : σ) :
    ∃ p s, build f (.int noise.val) given source = .ok (p, s) ∧
      (∀ ts, p.Variant (p.tamperAll ts)) ∧ ∀ q, p.Variant q →
        (q.check = .ok () ↔ ∀ i < f.length, ¬ q.Miscounted f i ∧ ¬ q.Misplaced i) ∧
        (∀ i < f.length, q.Miscounted f i → (∀ j < i, ¬ q.Miscounted f j) →
          q.check = .error (.inconsistent i
            (.count (q.tally.count i) (f.trueLiterals q.valuation.valueOf i)))) ∧
        ((∀ i < f.length, ¬ q.Miscounted f i) →
          ∀ i < f.length, q.Misplaced i → (∀ j < i, ¬ q.Misplaced j) →
            q.check = .error (.inconsistent i
              (if q.tally.unsatisfied.contains i then .surplusMember else .missingMember))) ∧
        ∀ {τ : Type} [RandomSource τ] (t : τ),
          (Session.respond ⟨q, t, none⟩ .check).problem = q ∧
          (Session.respond ⟨q, t, none⟩ .check).source = t ∧
          (q.check = .ok () → ∀ os : List Operation, (∀ o ∈ os, q.Moves o) →
            (Session.performAll ⟨q, t, none⟩ os).fault = none ∧
              (Session.performAll ⟨q, t, none⟩ os).problem.check = .ok ()) := by
  obtain ⟨p, s, hbuild, hp, -⟩ := build_spec hne (Percent.ofValue_int noise) given source
  refine ⟨p, s, hbuild, hp.variant.tamperAll, fun q hq => ⟨hq.check_eq_ok_iff hp, ?_, ?_, ?_⟩⟩
  · exact fun i hi => hq.check_of_miscounted hp hi
  · exact fun hcounts i hi => hq.check_of_misplaced hp hcounts hi
  · intro τ _ t
    refine ⟨rfl, rfl, fun hok os hos => ?_⟩
    exact Reflects.performAll_of_moves (s := ⟨q, t, none⟩) (hq.reflects hp hok) rfl hos

/-- A clause with two true literals is put into the set, and one without any is taken out of it: the
    first of them is reported. -/
theorem check_exact_of_two :
    let f : Formula := [[⟨"a", false⟩, ⟨"b", false⟩, ⟨"a", false⟩], [⟨"a", true⟩]]
    ∃ p s, build f (.int 50) none (Script.mk []) = .ok (p, s) ∧
      (p.tamperAll [.insert 0, .discard 1]).check = .error (.inconsistent 0 .surplusMember) := by
  intro f
  obtain ⟨p, s, hbuild, hts, hall⟩ :=
    check_exact (f := f) (by decide) ⟨50, by decide⟩ none (Script.mk [])
  replace hbuild : build f (.int 50) _ _ = .ok (p, s) := hbuild
  have hview : (build f (.int 50) none (Script.mk [])).map (fun r =>
      let q := r.1.tamperAll [.insert 0, .discard 1]
      (q.tally.count 0, q.tally.count 1, q.valuation, q.tally.unsatisfied.contains 0)) =
      .ok (2, 0, [("a", true), ("b", true)], true) := by cbv
  rw [hbuild] at hview
  have hq := Except.ok.inj hview
  simp only [Prod.mk.injEq] at hq
  obtain ⟨h0, h1, hvalues, hin⟩ := hq
  have hcounts : ∀ i < f.length, ¬ (p.tamperAll [.insert 0, .discard 1]).Miscounted f i := by
    intro i hi
    have hcases : i = 0 ∨ i = 1 := by
      have hlen : f.length = 2 := rfl
      omega
    rcases hcases with rfl | rfl
    · rw [Miscounted, h0, hvalues]
      decide
    · rw [Miscounted, h1, hvalues]
      decide
  have hwrong := (hall _ (hts _)).2.2.1 hcounts 0 (by decide)
    (by rw [Misplaced, hin, h0]; decide) (fun j hj => absurd hj (Nat.not_lt_zero j))
  rw [hin] at hwrong
  exact ⟨p, s, hbuild, hwrong⟩

end Problem

end FlipSat
