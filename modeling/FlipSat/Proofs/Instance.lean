import FlipSat.Proofs.Vocabulary

/-
  FlipSat: the instance of a formula has the clauses of the formula without their repetitions, and
  knows for each proposition which clauses hold it positively, negatively and both ways.
  `Sound` says so of the lists of occurrences (`Occurrences.Exact`); it is kept when names are added
  (`Sound.extend`) and when a clause is added (`addClause_spec`). `ofFormula_spec`: a formula
  without empty clauses has a sound instance, which describes it.
-/
namespace FlipSat

/-- Does clause `i` of a list hold the literal? -/
def holdsAt (cs : List Clause) (i : Nat) (l : Literal) : Bool :=
  cs[i]?.any (·.literals.contains l)

/-- The clauses of a list that hold the literal, in ascending order. -/
def holders (cs : List Clause) (l : Literal) : List Nat :=
  (List.range cs.length).filter (holdsAt cs · l)

/-- The clauses of a list that hold the proposition both ways, in ascending order. -/
def bothHolders (cs : List Clause) (x : Proposition) : List Nat :=
  (List.range cs.length).filter fun i => holdsAt cs i ⟨x, true⟩ && holdsAt cs i ⟨x, false⟩

theorem holdsAt_iff {cs : List Clause} {i : Nat} {l : Literal} :
    holdsAt cs i l = true ↔ ∃ c, cs[i]? = some c ∧ l ∈ c.literals := by
  cases h : cs[i]? <;> simp [holdsAt, h]

theorem mem_holders {cs : List Clause} {i : Nat} {l : Literal} :
    i ∈ holders cs l ↔ holdsAt cs i l = true := by
  rw [holders, List.mem_filter, List.mem_range, and_iff_right_iff_imp, holdsAt_iff]
  rintro ⟨c, hc, -⟩
  exact (List.getElem?_eq_some_iff.mp hc).1

theorem mem_bothHolders {cs : List Clause} {i : Nat} {x : Proposition} :
    i ∈ bothHolders cs x ↔ i ∈ holders cs ⟨x, true⟩ ∧ i ∈ holders cs ⟨x, false⟩ := by
  rw [bothHolders, List.mem_filter, Bool.and_eq_true, mem_holders, mem_holders,
    and_iff_right_iff_imp]
  intro h
  exact (List.mem_filter.mp (mem_holders.mpr h.1)).1

theorem holdsAt_append (cs : List Clause) (c : Clause) {i : Nat} (h : i < cs.length)
    (l : Literal) : holdsAt (cs ++ [c]) i l = holdsAt cs i l := by
  rw [holdsAt, List.getElem?_append_left h, holdsAt]

theorem holdsAt_last (cs : List Clause) (c : Clause) (l : Literal) :
    holdsAt (cs ++ [c]) cs.length l = decide (l ∈ c.literals) := by
  simp [holdsAt]

/-- The places of a list of clauses with some property, when a clause is added. -/
theorem filter_range_append (cs : List Clause) (c : Clause) (p q : Nat → Bool)
    (h : ∀ i < cs.length, p i = q i) :
    (List.range (cs ++ [c]).length).filter p =
      (List.range cs.length).filter q ++ if p cs.length then [cs.length] else [] := by
  rw [List.length_append, List.length_singleton, List.range_succ, List.filter_append,
    List.filter_congr fun i hi => h i (List.mem_range.mp hi), List.filter_singleton]
  cases p cs.length <;> rfl

theorem holders_append (cs : List Clause) (c : Clause) (l : Literal) :
    holders (cs ++ [c]) l = holders cs l ++ if l ∈ c.literals then [cs.length] else [] := by
  rw [holders, filter_range_append cs c _ _ fun i hi => holdsAt_append cs c hi l, holdsAt_last]
  simp [holders]

theorem bothHolders_append (cs : List Clause) (c : Clause) (x : Proposition) :
    bothHolders (cs ++ [c]) x = bothHolders cs x ++
      if ⟨x, true⟩ ∈ c.literals ∧ ⟨x, false⟩ ∈ c.literals then [cs.length] else [] := by
  rw [bothHolders, filter_range_append cs c _
    (fun i => holdsAt cs i ⟨x, true⟩ && holdsAt cs i ⟨x, false⟩), holdsAt_last, holdsAt_last]
  · simp [bothHolders]
  · intro i hi
    rw [holdsAt_append cs c hi, holdsAt_append cs c hi]

namespace Occurrences

/-- The lists are those of the clauses that hold the proposition positively, negatively and both
    ways. -/
structure Exact (o : Occurrences Nat) (cs : List Clause) (x : Proposition) : Prop where
  positive : o.positive.toList = holders cs ⟨x, true⟩
  negative : o.negative.toList = holders cs ⟨x, false⟩
  complementary : o.complementary.toList = bothHolders cs x

/-- The lists with one more clause, as far as it holds the proposition. -/
structure Extended (o o' : Occurrences Nat) (i : Nat) (pos neg : Bool) : Prop where
  positive : o'.positive.toList = o.positive.toList ++ if pos then [i] else []
  negative : o'.negative.toList = o.negative.toList ++ if neg then [i] else []
  complementary :
    o'.complementary.toList = o.complementary.toList ++ if pos && neg then [i] else []

theorem extended_refl (o : Occurrences Nat) (i : Nat) : Extended o o i false false where
  positive := by simp
  negative := by simp
  complementary := by simp

/-- The last entry is the new clause only if the clause was entered. -/
theorem back?_eq_some_iff {as bs : Array Nat} {i : Nat} {b : Bool} (h : ∀ j ∈ as, j < i)
    (hb : bs.toList = as.toList ++ if b then [i] else []) : bs.back? = some i ↔ b = true := by
  rw [← Array.getLast?_toList, hb]
  cases b with
  | true => simp
  | false =>
    simp only [Bool.false_eq_true, if_false, List.append_nil, iff_false]
    intro hl
    exact Nat.lt_irrefl i (h i (by simpa using List.mem_of_getLast? hl))

/-- Registering a literal that is new to the clause enters the clause where it belongs. -/
theorem Extended.register {o o' : Occurrences Nat} {i : Nat} {pos neg : Bool}
    (h : Extended o o' i pos neg) (hp : ∀ j ∈ o.positive, j < i) (hn : ∀ j ∈ o.negative, j < i)
    {b : Bool} (hb : (if b then pos else neg) = false) :
    Extended o (o'.register i b) i (pos || b) (neg || !b) := by
  have hpos := back?_eq_some_iff hp h.positive
  have hneg := back?_eq_some_iff hn h.negative
  cases b with
  | true =>
    simp only [if_true] at hb
    subst hb
    have h1 := h.positive
    have h2 := h.complementary
    refine ⟨by simp [Occurrences.register, h1], by simp [Occurrences.register, h.negative], ?_⟩
    cases neg <;> simp_all [Occurrences.register]
  | false =>
    simp only [Bool.false_eq_true, if_false] at hb
    subst hb
    have h1 := h.negative
    have h2 := h.complementary
    refine ⟨by simp [Occurrences.register, h.positive], by simp [Occurrences.register, h1], ?_⟩
    cases pos <;> simp_all [Occurrences.register]

end Occurrences

namespace Instance

open Occurrences

variable {inst : Instance} {x : Proposition}

/-! ## Registering a clause -/

theorem registerAll_concat (i : Nat) (ls : List Literal) (l : Literal)
    (os : Array (Occurrences Nat)) :
    registerAll i (ls ++ [l]) os =
      (registerAll i ls os).modify l.proposition.place (·.register i l.isPositive) := by
  rw [registerAll, List.foldl_append]
  rfl

theorem getD_modify {os : Array (Occurrences Nat)} {k j : Nat} (h : j < os.size)
    (f : Occurrences Nat → Occurrences Nat) :
    (os.modify k f).getD j {} = if k = j then f (os.getD j {}) else os.getD j {} := by
  have hj : j < (os.modify k f).size := by rw [Array.size_modify]; exact h
  simp only [Array.getD, h, hj, dif_pos, Array.getInternal_eq_getElem, Array.getElem_modify]

theorem size_registerAll (i : Nat) (ls : List Literal) (os : Array (Occurrences Nat)) :
    (registerAll i ls os).size = os.size := by
  induction ls using List.reverseRecOn with
  | nil => rfl
  | append_singleton ls l ih => rw [registerAll_concat, Array.size_modify, ih]

/-- Registering a clause enters it for a proposition as far as the clause holds it. -/
theorem extended_registerAll {xs : Array Proposition} (he : Enumerated xs) (hx : x ∈ xs) {i : Nat}
    {ls : List Literal} (hnd : ls.Nodup) (hown : ∀ l ∈ ls, l.proposition ∈ xs)
    {os : Array (Occurrences Nat)} (hsize : x.place < os.size)
    (hp : ∀ j ∈ (os.getD x.place {}).positive, j < i)
    (hn : ∀ j ∈ (os.getD x.place {}).negative, j < i) :
    Extended (os.getD x.place {}) ((registerAll i ls os).getD x.place {}) i
      (decide (⟨x, true⟩ ∈ ls)) (decide (⟨x, false⟩ ∈ ls)) := by
  induction ls using List.reverseRecOn with
  | nil => simpa [registerAll] using extended_refl _ i
  | append_singleton ls l ih =>
    obtain ⟨hls, -, hne⟩ := List.nodup_append.mp hnd
    have hl : l ∉ ls := fun hm => hne l hm l (by simp) rfl
    have hih := ih hls fun m hm => hown m (by simp [hm])
    have hs : x.place < (registerAll i ls os).size := by rw [size_registerAll]; exact hsize
    rw [registerAll_concat, getD_modify hs]
    obtain ⟨y, b⟩ := l
    by_cases hyx : y = x
    · subst hyx
      have hreg := hih.register hp hn (b := b) (by cases b <;> simpa using hl)
      cases b <;> simpa using hreg
    · have hidx : y.place ≠ x.place := fun e => hyx (he.eq_of_place_eq (hown ⟨y, b⟩ (by simp)) hx e)
      have hxy : x ≠ y := Ne.symm hyx
      simpa [hidx, hxy] using hih

theorem getD_growTo (n k : Nat) (os : Array (Occurrences Nat)) :
    (growTo n os).getD k {} = os.getD k {} := by
  rw [growTo, Array.getD_eq_getD_getElem?, Array.getD_eq_getD_getElem?, Array.getElem?_append]
  split
  · rfl
  · next h =>
    rw [Array.getElem?_eq_none (Nat.le_of_not_lt h), Array.getElem?_replicate]
    split <;> rfl

theorem size_growTo {n : Nat} {os : Array (Occurrences Nat)} (h : os.size ≤ n) :
    (growTo n os).size = n := by
  rw [growTo, Array.size_append, Array.size_replicate]
  omega

/-! ## Sound instances -/

/-- The clauses are over the vocabulary, no clause holds a literal twice, and the occurrences of
    each proposition are exact. -/
structure Sound (inst : Instance) : Prop where
  vocabulary : inst.vocabulary.Sound
  own : ∀ c ∈ inst.clauses, ∀ l ∈ c.literals, l.proposition ∈ inst.vocabulary.propositions
  nodup : ∀ c ∈ inst.clauses, c.literals.Nodup
  size_le : inst.occurrences.size ≤ inst.vocabulary.propositions.size
  exact : ∀ x ∈ inst.vocabulary.propositions,
    (inst.occurrences.getD x.place {}).Exact inst.clauses.toList x

theorem sound_empty : Sound {} where
  vocabulary := Vocabulary.sound_empty
  own := by simp
  nodup := by simp
  size_le := by simp
  exact := by simp

/-- The clauses as they are written. -/
def specs (inst : Instance) : Formula :=
  inst.clauses.toList.map fun c => c.literals.map Literal.spec

theorem holdsAt_of_not_mem (h : inst.Sound) (hx : x ∉ inst.vocabulary.propositions) (b : Bool)
    (i : Nat) : holdsAt inst.clauses.toList i ⟨x, b⟩ = false := by
  rw [Bool.eq_false_iff, ne_eq, holdsAt_iff]
  rintro ⟨c, hc, hl⟩
  exact hx (h.own c (by simpa using List.mem_of_getElem? hc) _ hl)

/-- Names may be added at any time. -/
theorem Sound.extend (h : inst.Sound) {v : Vocabulary} (hv : v.Sound)
    (hp : inst.vocabulary.propositions.toList <+: v.propositions.toList) :
    Sound { inst with vocabulary := v } where
  vocabulary := hv
  own c hc l hl := by simpa using hp.subset (by simpa using h.own c hc l hl)
  nodup := h.nodup
  size_le := Nat.le_trans h.size_le (by simpa using hp.length_le)
  exact x hx := by
    by_cases hold : x ∈ inst.vocabulary.propositions
    · exact h.exact x hold
    · have hge : inst.occurrences.size ≤ x.place := by
        refine Nat.le_trans h.size_le (Nat.le_of_not_lt fun hlt => hold ?_)
        have hi := hv.enumerated.getElem?_place hx
        obtain ⟨zs, hz⟩ := hp
        rw [← Array.getElem?_toList, ← hz, List.getElem?_append_left (by simpa using hlt)] at hi
        simpa using List.mem_of_getElem? hi
      have hnil := fun b i => holdsAt_of_not_mem h hold b i
      have hd : inst.occurrences.getD x.place {} = {} := by simp [Array.getD, Nat.not_lt.mpr hge]
      rw [hd]
      exact ⟨by simp [holders, hnil], by simp [holders, hnil], by simp [bothHolders, hnil]⟩

theorem Sound.grow (h : inst.Sound) :
    Sound { inst with occurrences := growTo inst.vocabulary.size inst.occurrences } where
  vocabulary := h.vocabulary
  own := h.own
  nodup := h.nodup
  size_le := Nat.le_of_eq (size_growTo h.size_le)
  exact x hx := by
    rw [getD_growTo]
    exact h.exact x hx

/-- A clause over the vocabulary may be added after the others. -/
theorem Sound.push (h : inst.Sound) (hs : inst.occurrences.size = inst.vocabulary.propositions.size)
    {c : Clause} (hown : ∀ l ∈ c.literals, l.proposition ∈ inst.vocabulary.propositions)
    (hnd : c.literals.Nodup) :
    Sound { vocabulary := inst.vocabulary
            clauses := inst.clauses.push c
            occurrences := registerAll inst.clauses.size c.literals inst.occurrences } where
  vocabulary := h.vocabulary
  own d hd := by
    rcases Array.mem_push.mp hd with hd | rfl
    · exact h.own d hd
    · exact hown
  nodup d hd := by
    rcases Array.mem_push.mp hd with hd | rfl
    · exact h.nodup d hd
    · exact hnd
  size_le := by
    rw [size_registerAll]
    exact Nat.le_of_eq hs
  exact x hx := by
    have hex := h.exact x hx
    have hlt : ∀ b, ∀ j ∈ holders inst.clauses.toList ⟨x, b⟩, j < inst.clauses.size := by
      intro b j hj
      simpa using List.mem_range.mp (List.mem_filter.mp hj).1
    obtain ⟨hi, -⟩ := Array.getElem?_eq_some_iff.mp (h.vocabulary.enumerated.getElem?_place hx)
    have hext := extended_registerAll h.vocabulary.enumerated hx hnd hown (hs ▸ hi)
      (fun j hj => hlt true j (hex.positive ▸ Array.mem_toList_iff.mpr hj))
      (fun j hj => hlt false j (hex.negative ▸ Array.mem_toList_iff.mpr hj))
    refine ⟨?_, ?_, ?_⟩
    · rw [hext.positive, hex.positive, Array.toList_push, holders_append]
      simp
    · rw [hext.negative, hex.negative, Array.toList_push, holders_append]
      simp
    · rw [hext.complementary, hex.complementary, Array.toList_push, bothHolders_append]
      simp

/-! ## The instance of a formula -/

/-- Adding a clause that is not empty succeeds, and adds its names and its literals, each once. -/
theorem addClause_spec (h : inst.Sound) {spec : ClauseSpec} (hne : spec ≠ []) :
    ∃ inst', inst.addClause spec = .ok inst' ∧ inst'.Sound ∧
      inst'.vocabulary.names = (inst.vocabulary.names ++ spec.map (·.name)).eraseDups ∧
      inst'.specs = inst.specs ++ [spec.eraseDups] := by
  have hv := h.vocabulary
  have hspec := Vocabulary.spec_internAll hv spec
  have hmem := Vocabulary.mem_internAll hv spec
  have hnames := Vocabulary.names_internAll hv spec
  have hnil : (inst.vocabulary.internAll spec).1 ≠ [] := by
    intro hn
    rw [hn] at hspec
    exact hne hspec.symm
  have hextended := h.extend (hv.internAll spec) (Vocabulary.prefix_internAll _ spec)
  have hsize := size_growTo hextended.size_le
  have hadd : inst.addClause spec = .ok
      { vocabulary := (inst.vocabulary.internAll spec).2
        clauses := inst.clauses.push ⟨_, Clause.eraseDups_ne_nil hnil⟩
        occurrences := registerAll inst.clauses.size (inst.vocabulary.internAll spec).1.eraseDups
          (growTo (inst.vocabulary.internAll spec).2.size inst.occurrences) } := by
    simp only [addClause, Clause.ofLiterals, Clause.ofLiterals?, dif_neg hnil]
    rfl
  refine ⟨_, hadd, ?_, hnames, ?_⟩
  · exact hextended.grow.push hsize (fun l hl => hmem l (List.mem_eraseDups.mp hl))
      (nodup_eraseDups _)
  · rw [specs, specs, Array.toList_push, List.map_append, List.map_singleton, map_eraseDups, hspec]
    intro l hl m hm
    exact (hv.internAll spec).enumerated.eq_of_spec_eq (hmem l hl) (hmem m hm)

theorem addClauses_spec (h : inst.Sound) {f : Formula} (hne : ∀ c ∈ f, c ≠ []) :
    ∃ inst', inst.addClauses f = .ok inst' ∧ inst'.Sound ∧
      inst'.vocabulary.names = (inst.vocabulary.names ++ f.flatten.map (·.name)).eraseDups ∧
      inst'.specs = inst.specs ++ f.map List.eraseDups := by
  induction f generalizing inst with
  | nil =>
    have hd : inst.vocabulary.names.eraseDups = inst.vocabulary.names :=
      eraseDups_of_nodup h.vocabulary.enumerated.names_nodup
    exact ⟨inst, rfl, h, by simp [hd], by simp⟩
  | cons c f ih =>
    obtain ⟨i1, h1, hs1, hn1, hc1⟩ := addClause_spec h (hne c (by simp))
    obtain ⟨i2, h2, hs2, hn2, hc2⟩ := ih hs1 fun d hd => hne d (by simp [hd])
    refine ⟨i2, ?_, hs2, ?_, ?_⟩
    · rw [addClauses, h1]
      exact h2
    · rw [hn2, hn1, eraseDups_eraseDups_append]
      simp
    · rw [hc2, hc1]
      simp

/-- A formula without empty clauses has a sound instance. Its names are those of the formula in the
    order in which they are first met, its clauses those of the formula, each literal once. -/
theorem ofFormula_spec {f : Formula} (hne : ∀ c ∈ f, c ≠ []) :
    ∃ inst, ofFormula f = .ok inst ∧ inst.Sound ∧
      inst.vocabulary.names = (f.flatten.map (·.name)).eraseDups ∧
      inst.specs = f.map List.eraseDups := addClauses_spec sound_empty hne

end Instance

end FlipSat
