import FlipSat.Assignment
import FlipSat.Proofs.Vocabulary

/-
  FlipSat: what an assignment says of propositions, literals and names.
  `truth` is the value of a proposition that the assignment knows, and of those only: on others
  every operation reports a fault. A flip inverts one truth value and leaves the others
  (`flip_of_knows`). By name, an assignment over propositions with different names says the same as
  by proposition (`valueOf_toValuation`).
-/
namespace FlipSat

/-- The value of a name. -/
def Valuation.valueOf (v : Valuation) (name : String) : Option Bool := v.lookup name

/-- The values with that of one name inverted. -/
def invertAt (v : String → Option Bool) (name : String) : String → Option Bool :=
  fun n => if n = name then (v n).map not else v n

/-! ## Places -/

theorem listPlace?_natCast (n k : Nat) : listPlace? n k = if k < n then some k else none := by
  unfold listPlace?
  split_ifs <;> first | rfl | omega

theorem listPlace?_eq_none_iff {n : Nat} {i : Int} (h : i < n) :
    listPlace? n i = none ↔ i < -n := by
  unfold listPlace?
  split_ifs <;> simp <;> omega

theorem lt_of_listPlace? {n k : Nat} {i : Int} (h : listPlace? n i = some k) : i < n ∧ k < n := by
  unfold listPlace? at h
  split_ifs at h
  all_goals
    obtain rfl := Option.some.inj h
    omega

namespace Assignment

variable {a b : Assignment} {x y : Proposition}

/-- The proposition that an index leads to. -/
def standing? (a : Assignment) (i : Int) : Option Proposition :=
  (listPlace? a.propositions.size i).bind fun k => a.propositions[k]?

/-- The proposition is the very one that its index leads to. -/
def Knows (a : Assignment) (x : Proposition) : Prop := a.standing? x.index = some x

/-- The value of a proposition that is known. -/
def truth (a : Assignment) (x : Proposition) : Bool :=
  ((listPlace? a.propositions.size x.index).bind fun k => a.values[k]?).getD false

/-- The fault of a proposition that is not known. -/
def refusal (a : Assignment) (x : Proposition) : Fault :=
  if x.index < -a.propositions.size then .noSuchPlace else .unknownProposition x.name

/-- Is the literal true? -/
def satisfies (a : Assignment) (l : Literal) : Bool := l.isPositive == a.truth l.proposition

theorem knows_iff : a.Knows x ↔
    ∃ k, listPlace? a.propositions.size x.index = some k ∧ a.propositions[k]? = some x :=
  Option.bind_eq_some_iff

theorem knows_congr (h : b.propositions = a.propositions) : b.Knows x ↔ a.Knows x := by
  rw [knows_iff, knows_iff, h]

theorem Knows.mem (h : a.Knows x) : x ∈ a.propositions := by
  obtain ⟨k, -, hk⟩ := knows_iff.mp h
  exact Array.mem_of_getElem? hk

/-- Where each proposition stands at its own index, that is where its index leads to. -/
theorem listPlace?_of_mem (he : Enumerated a.propositions) (h : x ∈ a.propositions) :
    listPlace? a.propositions.size x.index = some x.place := by
  obtain ⟨hlt, -⟩ := Array.getElem?_eq_some_iff.mp (he.getElem?_place h)
  rw [he.index_eq_place h, listPlace?_natCast, if_pos hlt]

theorem knows_of_mem (he : Enumerated a.propositions) (h : x ∈ a.propositions) : a.Knows x :=
  knows_iff.mpr ⟨x.place, listPlace?_of_mem he h, he.getElem?_place h⟩

theorem eq_of_knows (hx : a.Knows x) (hy : a.Knows y) (he : x.index = y.index) : x = y := by
  rw [Knows, he, hy] at hx
  exact (Option.some.inj hx).symm

/-! ## Values -/

theorem slot_of_knows (h : a.Knows x) : ∃ k : Fin a.values.size, a.slot x = .ok k ∧
    listPlace? a.propositions.size x.index = some k.val ∧ a.propositions[k.val]? = some x := by
  obtain ⟨k, hplace, hk⟩ := knows_iff.mp h
  have hlt := lt_of_listPlace? hplace
  refine ⟨⟨k, by rw [a.size_eq]; exact hlt.2⟩, ?_, hplace, hk⟩
  unfold slot
  rw [if_neg (Int.not_le.mpr hlt.1), hplace]
  exact dif_pos hk

theorem slot_of_not_knows (h : ¬ a.Knows x) : a.slot x = .error (a.refusal x) := by
  unfold slot refusal
  by_cases hlarge : (a.propositions.size : Int) ≤ x.index
  · rw [if_pos hlarge, if_neg (by omega)]
  · rw [if_neg hlarge]
    have hsmall := listPlace?_eq_none_iff (Int.not_le.mp hlarge)
    cases hplace : listPlace? a.propositions.size x.index with
    | none => rw [if_pos (hsmall.mp hplace)]
    | some k =>
      have hk : a.propositions[k]? ≠ some x := fun hk => h (knows_iff.mpr ⟨k, hplace, hk⟩)
      have hwithin : ¬ x.index < -a.propositions.size := by
        rw [← hsmall, hplace]
        exact nofun
      rw [if_neg hwithin]
      exact dif_neg hk

theorem truth_eq {k : Nat} (hk : k < a.values.size)
    (h : listPlace? a.propositions.size x.index = some k) : a.truth x = a.values[k] := by
  simp [truth, h, hk]

theorem value_of_knows (h : a.Knows x) : a.value x = .ok (a.truth x) := by
  obtain ⟨k, hs, hplace, -⟩ := slot_of_knows h
  rw [value, hs, truth_eq k.isLt hplace]
  rfl

theorem value_of_not_knows (h : ¬ a.Knows x) : a.value x = .error (a.refusal x) := by
  rw [value, slot_of_not_knows h]
  rfl

/-- A flip of a known proposition inverts its value and no other. -/
theorem flip_of_knows (h : a.Knows x) :
    ∃ b, a.flip x = .ok b ∧ b.propositions = a.propositions ∧
      ∀ y, a.Knows y → b.truth y = if y = x then !a.truth x else a.truth y := by
  obtain ⟨k, hs, hplace, hk⟩ := slot_of_knows h
  refine ⟨a.flipAt k.val k.isLt, by rw [flip, hs]; rfl, rfl, fun y hy => ?_⟩
  obtain ⟨j, -, hyplace, hj⟩ := slot_of_knows hy
  by_cases he : y = x
  · subst he
    simp [truth, flipAt, hplace]
  · have hne : k.val ≠ j.val := by
      intro hkj
      rw [hkj, hj] at hk
      exact he (Option.some.inj hk)
    rw [if_neg he]
    simp [truth, flipAt, hyplace, hne]

theorem countTrue_eq {ls : List Literal} (h : ∀ l ∈ ls, a.Knows l.proposition) :
    a.countTrue ls = .ok (ls.countP a.satisfies) := by
  induction ls with
  | nil => rfl
  | cons l ls ih =>
    rw [countTrue, value_of_knows (h l (by simp)), ih fun m hm => h m (by simp [hm])]
    rw [List.countP_cons]
    by_cases hl : l.isPositive = a.truth l.proposition <;>
      simp [bind, Except.bind, pure, Except.pure, satisfies, hl]

/-! ## Assignments to start with -/

variable {σ : Type} [RandomSource σ]

/-- The given value of each proposition, completed from a source. -/
def fill (given : Valuation) : List Proposition → σ → List Bool × σ
  | [], source => ([], source)
  | p :: ps, source =>
    match given.lookup p.name with
    | some b =>
      let (bs, source) := fill given ps source
      (b :: bs, source)
    | none =>
      let (b, source) := randomBool source
      let (bs, source) := fill given ps source
      (b :: bs, source)

theorem length_fill (given : Valuation) (ps : List Proposition) (source : σ) :
    (fill given ps source).1.length = ps.length := by
  induction ps generalizing source with
  | nil => rfl
  | cons p ps ih =>
    rw [fill]
    cases given.lookup p.name <;> simp [ih]

/-- With a source at hand given values are always completed. -/
theorem givenFrom_some (given : Valuation) (ps : List Proposition) (source : σ) :
    givenFrom given ps (some source) =
      .ok ((fill given ps source).1, some (fill given ps source).2) := by
  induction ps generalizing source with
  | nil => rfl
  | cons p ps ih =>
    rw [fill]
    cases hg : given.lookup p.name with
    | some b =>
      simp only [givenFrom, hg]
      exact congrArg (Except.map fun r => (b :: r.1, r.2)) (ih source)
    | none =>
      simp only [givenFrom, hg]
      exact congrArg (Except.map fun r => ((randomBool source).1 :: r.1, r.2))
        (ih (randomBool source).2)

/-- The assignment to start with. -/
def starting (xs : Array Proposition) (given : Option Valuation) (source : σ) : Assignment × σ :=
  match given with
  | none => random xs source
  | some given =>
    let filled := fill given xs.toList source
    (⟨xs, filled.1.toArray, by simp [filled, length_fill]⟩, filled.2)

theorem propositions_starting (xs : Array Proposition) (given : Option Valuation) (source : σ) :
    (starting xs given source).1.propositions = xs := by
  cases given <;> rfl

/-- There is always an assignment to start with. -/
theorem initial_eq (xs : Array Proposition) (given : Option Valuation) (source : σ) :
    initial xs given source = .ok (starting xs given source) := by
  cases given with
  | none => rfl
  | some given =>
    have hsize : (fill given xs.toList source).1.toArray.size = xs.size := by simp [length_fill]
    rw [initial, ofValuation, givenFrom_some]
    simp only [bind, Except.bind, ofValues, dif_pos hsize]
    rfl

/-! ## Values by name -/

theorem putValue_of_new {v : Valuation} {name : String} (h : name ∉ v.map (·.1)) (b : Bool) :
    putValue v name b = v ++ [(name, b)] := by
  induction v with
  | nil => rfl
  | cons e v ih =>
    simp only [List.map_cons, List.mem_cons, not_or] at h
    have he : (e.1 == name) = false := by simpa using Ne.symm h.1
    rw [putValue, he, ih h.2]
    rfl

theorem foldl_putValue {es : List (Proposition × Bool)} {v : Valuation}
    (h : (v.map (·.1) ++ es.map (·.1.name)).Nodup) :
    es.foldl (fun v e => putValue v e.1.name e.2) v = v ++ es.map fun e => (e.1.name, e.2) := by
  induction es generalizing v with
  | nil => simp
  | cons e es ih =>
    have he : e.1.name ∉ v.map (·.1) :=
      fun hm => (List.nodup_append.mp h).2.2 _ hm _ (by simp) rfl
    rw [List.foldl_cons, putValue_of_new he, ih (by simpa using h)]
    simp

theorem toValuation_eq (h : Enumerated a.propositions) :
    a.toValuation = a.propositions.toList.map fun x => (x.name, a.truth x) := by
  have hz : a.propositions.toList.zip a.values.toList =
      a.propositions.toList.map fun x => (x, a.truth x) := by
    apply List.ext_getElem
    · simp [a.size_eq]
    · intro i h1 h2
      have hp : i < a.propositions.size := by simpa using h2
      have hv : i < a.values.size := by rw [a.size_eq]; exact hp
      have hi := h.index_eq i a.propositions[i] (by simp [hp])
      simp [truth, listPlace?_natCast, hi, hp, hv]
  rw [toValuation, hz, foldl_putValue]
  · simp
  · rw [List.map_map]
    exact h.names_nodup

/-- The names of the values are those of the propositions, in their order. -/
theorem keys_toValuation (h : Enumerated a.propositions) :
    a.toValuation.map (·.1) = a.propositions.toList.map (·.name) := by
  rw [toValuation_eq h, List.map_map]
  rfl

theorem lookup_map (xs : List Proposition) (f : Proposition → Bool) (name : String) :
    (xs.map fun x => (x.name, f x)).lookup name = (xs.find? (·.name == name)).map f := by
  induction xs with
  | nil => rfl
  | cons x xs ih =>
    rw [List.map_cons, List.lookup_cons, List.find?_cons, BEq.comm]
    cases x.name == name with
    | true => rfl
    | false => exact ih

theorem valueOf_toValuation (h : Enumerated a.propositions) (name : String) :
    a.toValuation.valueOf name = (a.propositions.toList.find? (·.name == name)).map a.truth := by
  rw [Valuation.valueOf, toValuation_eq h, lookup_map]

theorem valueOf_toValuation_of_knows (h : Enumerated a.propositions) (hx : a.Knows x) :
    a.toValuation.valueOf x.name = some (a.truth x) := by
  have hf : a.propositions.toList.find? (·.name == x.name) = some x := by
    cases hy : a.propositions.toList.find? (·.name == x.name) with
    | none =>
      have := List.find?_eq_none.mp hy x (by simpa using hx.mem)
      simp at this
    | some y =>
      have hn : y.name = x.name := by simpa using List.find?_some hy
      have hm : y ∈ a.propositions := by simpa using List.mem_of_find?_eq_some hy
      rw [h.eq_of_name_eq hm hx.mem hn]
  rw [valueOf_toValuation h, hf]
  rfl

/-- A literal is true as it is written exactly if it is true of its proposition. -/
theorem holds_spec (h : Enumerated a.propositions) {l : Literal} (hl : a.Knows l.proposition) :
    l.spec.holds a.toValuation.valueOf = a.satisfies l := by
  have hv : a.toValuation.valueOf l.spec.name = some (a.truth l.proposition) :=
    valueOf_toValuation_of_knows h hl
  rw [LiteralSpec.holds, hv, satisfies]
  cases a.truth l.proposition <;> cases hp : l.isPositive <;> simp [Literal.spec, hp]

/-- By name, a flip inverts the value of one name. -/
theorem valueOf_flip (h : Enumerated a.propositions) (hx : a.Knows x) (hf : a.flip x = .ok b) :
    b.toValuation.valueOf = invertAt a.toValuation.valueOf x.name := by
  obtain ⟨b', hb, hp, ht⟩ := flip_of_knows hx
  rw [hb] at hf
  cases hf
  funext name
  have hbe : Enumerated b.propositions := hp ▸ h
  rw [valueOf_toValuation hbe, invertAt, valueOf_toValuation h, hp]
  cases hy : a.propositions.toList.find? (·.name == name) with
  | none => simp
  | some y =>
    have hn : y.name = name := by simpa using List.find?_some hy
    have hm : y ∈ a.propositions := by simpa using List.mem_of_find?_eq_some hy
    have hyx : y = x ↔ name = x.name :=
      ⟨fun e => by rw [← hn, e], fun e => h.eq_of_name_eq hm hx.mem (hn.trans e)⟩
    rw [Option.map_some, ht y (knows_of_mem h hm)]
    by_cases he : y = x
    · rw [if_pos he, if_pos (hyx.mp he), he]
      rfl
    · rw [if_neg he, if_neg (fun e => he (hyx.mpr e))]
      rfl

end Assignment

end FlipSat
