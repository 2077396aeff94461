import FlipSat.Proofs.FirstMax
import FlipSat.Proofs.Reflects
import Mathlib.Algebra.Order.Group.Unbundled.Int

/-
  FlipSat: the delta of a proposition is by how much a flip changes the number of satisfied clauses.
  The delta looks only at clauses with no or with one true literal, and corrects for those that
  mention the proposition both ways; `Reflects.delta_of_flip` says that this is what a flip then
  does, and `Reflects.delta_eq` that it is the difference of two evaluations of the formula. The
  greedy literal of a clause is the first one with the largest delta (`greedy_spec`).
-/
namespace FlipSat

/-- The sum of what clauses gain and lose, from what each of them does. -/
theorem countP_balance {α : Type} {as : List α} {after before gains loses keeps : α → Bool}
    (h : ∀ a ∈ as, ((after a).toNat : Int) - (before a).toNat =
      (gains a).toNat - ((loses a).toNat - (keeps a).toNat)) :
    (as.countP after : Int) - as.countP before =
      as.countP gains - (as.countP loses - as.countP keeps) := by
  induction as with
  | nil => rfl
  | cons a as ih =>
    have ha := h a (by simp)
    have hih := ih fun b hb => h b (by simp [hb])
    have htoNat : ∀ b : Bool, (if b = true then 1 else 0) = b.toNat := by decide
    simp only [List.countP_cons, htoNat]
    omega

/-- The arithmetic of one clause that gains a true literal, loses one, or both: whether it is
    satisfied depends on the counts zero and one only. -/
theorem satisfied_balance {n m : Nat} {g l : Bool} (h : m + l.toNat = n + g.toNat)
    (hl : l = true → 0 < n) :
    ((decide (0 < m)).toNat : Int) - (decide (0 < n)).toNat =
      (g && n == 0).toNat - ((l && n == 1).toNat - (g && l && n == 1).toNat) := by
  cases l with
  | false =>
    cases g with
    | false =>
      obtain rfl : m = n := by simpa using h
      simp
    | true =>
      obtain rfl : m = n + 1 := by simpa using h
      cases n <;> simp
  | true =>
    have hn := hl rfl
    cases g with
    | false =>
      obtain rfl : n = m + 1 := by simpa using h.symm
      cases m <;> simp
    | true =>
      obtain rfl : m = n := by simpa using h
      have h0 : (m == 0) = false := by simpa using Nat.ne_of_gt hn
      simp [h0]

namespace Problem

variable {p q : Problem} {f : Formula} {x : Proposition}

/-- Of the clauses with some property, the number of those with `k` true literals. -/
theorem Consistent.countP_places (h : p.Consistent) (r : Clause → Bool) (k : Nat) :
    ((List.range p.inst.clauses.toList.length).filter
      fun i => p.inst.clauses.toList[i]?.any r).countP (fun i => p.tally.count i == k) =
    p.inst.clauses.toList.countP
      fun c => r c && c.literals.countP p.assignment.satisfies == k := by
  rw [List.countP_filter, ← length_filter_range p.inst.clauses.toList,
    ← List.countP_eq_length_filter]
  refine List.countP_congr fun i _ => ?_
  rw [Array.getElem?_toList]
  cases hc : p.inst.clauses[i]? with
  | none => simp
  | some c =>
    rw [Tally.count_eq (h.count hc), Option.any_some, Option.any_some, Bool.and_comm,
      Bool.and_eq_true, Bool.and_eq_true, beq_iff_eq, beq_iff_eq, Int.natCast_inj]

theorem Consistent.countP_holders (h : p.Consistent) (l : Literal) (k : Nat) :
    (holders p.inst.clauses.toList l).countP (fun i => p.tally.count i == k) =
    p.inst.clauses.toList.countP
      fun c => c.literals.contains l && c.literals.countP p.assignment.satisfies == k :=
  h.countP_places (·.literals.contains l) k

theorem Consistent.countP_bothHolders (h : p.Consistent) (x : Proposition) (k : Nat) :
    (bothHolders p.inst.clauses.toList x).countP (fun i => p.tally.count i == k) =
    p.inst.clauses.toList.countP fun c =>
      c.literals.contains ⟨x, true⟩ && c.literals.contains ⟨x, false⟩ &&
        c.literals.countP p.assignment.satisfies == k := by
  rw [← h.countP_places, bothHolders]
  congr 1
  refine List.filter_congr fun i _ => ?_
  rw [holdsAt, holdsAt]
  cases p.inst.clauses.toList[i]? <;> rfl

/-- What a flip does to one clause: it gains if it had no true literal and holds the one that
    becomes true, loses if its only true literal becomes false, and keeps what it has if it holds
    both. -/
theorem Consistent.clause_balance (h : p.Consistent) {b : Assignment}
    (hb : ∀ y, p.assignment.Knows y →
      b.truth y = if y = x then !p.assignment.truth x else p.assignment.truth y)
    {c : Clause} (hc : c ∈ p.inst.clauses) :
    ((c.literals.any b.satisfies).toNat : Int) - (c.literals.any p.assignment.satisfies).toNat =
      (c.literals.contains ⟨x, !p.assignment.truth x⟩ &&
        c.literals.countP p.assignment.satisfies == 0).toNat -
      ((c.literals.contains ⟨x, p.assignment.truth x⟩ &&
          c.literals.countP p.assignment.satisfies == 1).toNat -
        (c.literals.contains ⟨x, true⟩ && c.literals.contains ⟨x, false⟩ &&
          c.literals.countP p.assignment.satisfies == 1).toNat) := by
  have hnd := h.inst.nodup c hc
  have hcount := countP_satisfies_flip (h.knows c hc) hb
  have hany : ∀ a : Assignment, c.literals.any a.satisfies =
      decide (0 < c.literals.countP a.satisfies) := by
    intro a
    rw [Bool.eq_iff_iff, List.any_eq_true, decide_eq_true_iff, List.countP_pos_iff]
  have hpos : (⟨x, p.assignment.truth x⟩ : Literal) ∈ c.literals →
      0 < c.literals.countP p.assignment.satisfies :=
    fun hl => List.countP_pos_iff.mpr ⟨_, hl, by simp [Assignment.satisfies]⟩
  have hnum : ∀ l : Literal, c.literals.count l = (c.literals.contains l).toNat := by
    intro l
    by_cases hl : l ∈ c.literals <;> simp [hnd.count, hl]
  rw [hnum, hnum] at hcount
  rw [hany, hany, satisfied_balance hcount fun hl => hpos (List.contains_iff_mem.mp hl)]
  cases p.assignment.truth x with
  | true =>
    rw [Bool.not_true, Bool.and_comm (c.literals.contains ⟨x, true⟩)
      (c.literals.contains ⟨x, false⟩)]
  | false => rw [Bool.not_false]

/-- The delta is what a flip then does to the number of satisfied clauses. -/
theorem Reflects.delta_of_flip (h : p.Reflects f) (hq : p.flip x = (q, none)) :
    p.delta x = .ok ((q.satisfiedCount : Int) - p.satisfiedCount) := by
  obtain ⟨hx, hqr, hinst, -⟩ := h.of_flip hq
  obtain ⟨-, htruth⟩ := h.truth_of_flip hq
  have hbalance := countP_balance fun c hc =>
    h.consistent.clause_balance htruth (Array.mem_toList_iff.mp hc)
  obtain ⟨hpos, hneg, hboth⟩ := h.consistent.exact hx
  have hnone := fun l => h.consistent.countP_holders l 0
  have hone := fun l => h.consistent.countP_holders l 1
  have hkept := h.consistent.countP_bothHolders x 1
  simp only [Int.natCast_zero, Int.natCast_one] at hnone hone hkept
  rw [h.satisfiedCount_eq, h.countHolding_eq, hqr.satisfiedCount_eq, hqr.countHolding_eq, hinst,
    hbalance, delta, Assignment.value_of_knows hx]
  simp only [bind, Except.bind, pure, Except.pure]
  cases p.assignment.truth x <;> simp [hpos, hneg, hboth, hnone, hone, hkept]

/-- The delta is the difference of two evaluations of the formula. -/
theorem Reflects.delta_eq (h : p.Reflects f) (hx : p.assignment.Knows x) :
    p.delta x = .ok ((f.countHolding (invertAt p.valuation.valueOf x.name) : Int) -
      f.countHolding p.valuation.valueOf) := by
  obtain ⟨-, q, hq, hqr, -, -, -, ha⟩ := (h.flip_cases x).resolve_left fun hn => hn.1 hx
  have hv : q.valuation.valueOf = invertAt p.valuation.valueOf x.name :=
    Assignment.valueOf_flip h.consistent.enumerated hx ha
  rw [h.delta_of_flip hq, h.satisfiedCount_eq, hqr.satisfiedCount_eq, hv]

theorem delta_of_not_knows (hx : ¬ p.assignment.Knows x) :
    p.delta x = .error (p.assignment.refusal x) := by
  rw [delta, Assignment.value_of_not_knows hx]
  rfl

/-! ## The greedy literal -/

/-- Of the literals read so far and those to come the first with the largest delta is found. -/
theorem greedyFrom_spec {score : Literal → Int} {seen ls : List Literal} {best : Literal}
    (hd : ∀ l ∈ ls, p.delta l.proposition = .ok (score l)) (hbest : FirstMax score seen best) :
    ∃ l, p.greedyFrom best (score best) ls = .ok l ∧ FirstMax score (seen ++ ls) l := by
  induction ls generalizing seen best with
  | nil => exact ⟨best, rfl, by simpa using hbest⟩
  | cons m ls ih =>
    have hm := hbest.concat m
    have hls : ∀ l ∈ ls, p.delta l.proposition = .ok (score l) :=
      fun l hl => hd l (by simp [hl])
    rw [greedyFrom, hd m (by simp), List.append_cons]
    simp only [bind, Except.bind]
    by_cases hlt : score best < score m
    · rw [if_pos hlt] at hm ⊢
      exact ih hls hm
    · rw [if_neg hlt] at hm ⊢
      exact ih hls hm

theorem greedy_spec {score : Literal → Int} {c : Clause}
    (hd : ∀ l ∈ c.literals, p.delta l.proposition = .ok (score l)) :
    ∃ l, p.greedy c = .ok l ∧ FirstMax score c.literals l := by
  have hc : c.literals = [c.head] ++ c.literals.tail :=
    (List.cons_head_tail c.literals_ne_nil).symm
  have hhead : p.delta c.head.proposition = .ok (score c.head) :=
    hd _ (List.head_mem c.literals_ne_nil)
  rw [hc]
  rw [greedy, hhead]
  exact greedyFrom_spec (fun l hl => hd l (List.mem_of_mem_tail hl)) (.singleton score c.head)

end Problem

end FlipSat
