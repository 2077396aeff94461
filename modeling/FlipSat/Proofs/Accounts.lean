import FlipSat.Proofs.Instants
import FlipSat.Search.Try

/-
  FlipSat: the accounts of a search: flips, readings of the clock, and stops that are asked for.
  `Accounts` is what the record of one try tells of the source and the clock before and after it;
  `Accounts.cons` adds a flip at its start. `Tries` puts the accounts of the tries of a search
  together. What bounds a search, and how it ends, follows from these by induction on `Tries`, with
  no look at how a try is made.
-/
namespace FlipSat

variable {σ : Type}

/-! ## Watched sources -/

/-- Stops are asked for during questions whether to walk at random, and at no other time. -/
structure Interrupts.Stepwise (i : Interrupts) : Prop where
  choice : ∀ k, i.duringChoice k = false
  reading : ∀ k, i.duringReading k = false

/-- A watched source after so many questions whether to walk at random. -/
structure Watched.Hears (w : Watched σ) (n : Nat) (w' : Watched σ) : Prop where
  interrupts_eq : w'.interrupts = w.interrupts
  percents_eq : w'.percents = w.percents + n
  interrupted_eq : w'.interrupted =
    (w.interrupted || (List.range' w.percents n).any w.interrupts.duringPercent)

namespace Watched

variable {w w' w'' : Watched σ} {m n : Nat}

theorem Hears.refl (w : Watched σ) : w.Hears 0 w := ⟨rfl, rfl, by simp⟩

theorem Hears.trans (h : w.Hears m w') (h' : w'.Hears n w'') : w.Hears (m + n) w'' where
  interrupts_eq := h'.interrupts_eq.trans h.interrupts_eq
  percents_eq := by rw [h'.percents_eq, h.percents_eq, Nat.add_assoc]
  interrupted_eq := by
    rw [h'.interrupted_eq, h.interrupted_eq, h.percents_eq, h.interrupts_eq, Bool.or_assoc,
      ← List.any_append, List.range'_append_1]

theorem duringReading_of_stepwise (h : w.interrupts.Stepwise) (n : Nat) :
    w.duringReading n = w := by
  rw [duringReading, h.reading, Bool.or_false]

end Watched

/-! ## Records -/

/-- A flip: the number of its question whether to walk at random, how often the clock was read
    before it, and the problem after it. -/
structure FlipNote where
  percent : Nat
  reads : Nat
  after : Problem

/-- The flips of a try, and the numbers of the readings that were held against the deadline. -/
structure Journal where
  flips : List FlipNote := []
  checks : List Nat := []

/-- The journal of a try that starts with the given problem. -/
structure TryRecord extends Journal where
  first : Problem

/-- The problems of a try. -/
def TryRecord.course (y : TryRecord) : List Problem := y.first :: y.flips.map (·.after)

theorem TryRecord.length_courses (ys : List TryRecord) :
    (ys.map course).flatten.length = ys.length + (ys.flatMap (·.flips)).length := by
  induction ys with
  | nil => rfl
  | cons y ys ih =>
    rw [List.map_cons, List.flatten_cons, List.length_append, ih, List.flatMap_cons,
      List.length_append, course, List.length_cons, List.length_map, List.length_cons]
    omega

/-- The last problem of a try. -/
def TryRecord.last (y : TryRecord) : Problem := (y.flips.map (·.after)).getLastD y.first

/-- Has the deadline passed at the reading with the given number? -/
def passedAt (deadline : Option Binary64) (c : Clock) (k : Nat) : Bool :=
  deadline.any (·.le (c.reading k))

/-- What the journal of a try tells of its source and its clock, of the `m` flips that it may make,
    and of its ending. -/
structure Accounts (m : Nat) (deadline : Option Binary64) (w : Watched σ) (c : Clock)
    (y : TryRecord) (w' : Watched σ) (c' : Clock) (e : Ending) : Prop where
  hears : w.Hears y.flips.length w'
  percents_eq : y.flips.map (·.percent) = List.range' w.percents y.flips.length
  reading_eq : c'.reading = c.reading
  reads_le : c.reads ≤ c'.reads
  length_le : y.flips.length ≤ m
  running : ∀ before f later, y.flips = before ++ f :: later →
    w.interrupted = false ∧ ∀ g ∈ before, w.interrupts.duringPercent g.percent = false
  punctual : ∀ f ∈ y.flips, deadline.isSome →
    ∃ k, f.reads = k + 1 ∧ c.reads ≤ k ∧ passedAt deadline c k = false
  timeout_iff : e = .timeout ↔ ∃ k ∈ y.checks, passedAt deadline c k = true
  -- The exits in the order in which they are looked at; a try that is left with nothing else to
  -- say must have met its deadline.
  ending_eq : e =
    if y.last.isSolved then .solved
    else if y.flips.length = m then .exhausted
    else if w'.interrupted then .interrupted
    else .timeout

/-! ## Single tries -/

namespace Accounts

/-- One flip more, before those of the journal. -/
theorem cons {m : Nat} {d : Option Binary64} {w w₁ w' : Watched σ} {c c₁ c' : Clock}
    {note : FlipNote} {j : Journal} {e : Ending} {first : Problem}
    (h : Accounts m d w₁ c₁ ⟨j, note.after⟩ w' c' e) (hrun : w.interrupted = false)
    (hhears : w.Hears 1 w₁) (hpercent : note.percent = w.percents)
    (hreading : c₁.reading = c.reading)
    (hreads : c₁.reads = c.reads + if d.isSome then 1 else 0) (hnote : note.reads = c₁.reads)
    (hlate : passedAt d c c.reads = false) :
    Accounts (m + 1) d w c
      ⟨⟨note :: j.flips, (if d.isSome then [c.reads] else []) ++ j.checks⟩, first⟩ w' c' e := by
  have hpassed : ∀ k, passedAt d c₁ k = passedAt d c k := by
    intro k
    rw [passedAt, hreading, passedAt]
  refine ⟨?_, ?_, ?_, ?_, ?_, ?_, ?_, ?_, ?_⟩
  · have := hhears.trans h.hears
    rwa [Nat.add_comm] at this
  · rw [List.map_cons, h.percents_eq, List.length_cons, List.range'_succ, hpercent,
      hhears.percents_eq]
  · rw [h.reading_eq, hreading]
  · have := h.reads_le
    split at hreads <;> omega
  · exact Nat.succ_le_succ h.length_le
  · intro before f later heq
    cases before with
    | nil => exact ⟨hrun, by simp⟩
    | cons g before =>
      obtain ⟨rfl, hflips⟩ := List.cons.inj heq
      obtain ⟨hquiet, hbefore⟩ := h.running before f later hflips
      rw [hhears.interrupted_eq, hrun, Bool.false_or] at hquiet
      rw [hhears.interrupts_eq] at hbefore
      refine ⟨hrun, List.forall_mem_cons.mpr ⟨?_, hbefore⟩⟩
      rw [hpercent]
      simpa using hquiet
  · intro f hf hd
    rw [if_pos hd] at hreads
    rcases List.mem_cons.mp hf with rfl | hf
    · exact ⟨c.reads, by rw [hnote, hreads], Nat.le_refl _, hlate⟩
    · obtain ⟨k, hk, hle, hnot⟩ := h.punctual f hf hd
      exact ⟨k, hk, by omega, hpassed k ▸ hnot⟩
  · rw [h.timeout_iff]
    simp only [hpassed]
    cases d.isSome with
    | false => rfl
    | true => simp [hlate]
  · have hlast : ∀ checks, TryRecord.last ⟨⟨note :: j.flips, checks⟩, first⟩ =
        TryRecord.last ⟨j, note.after⟩ := fun _ => List.getLastD_cons
    rw [hlast, List.length_cons, h.ending_eq]
    simp only [Nat.succ_inj]

/-- Wider bounds for the accounts of a try. -/
theorem widen {m : Nat} {d : Option Binary64} {w w₁ w' : Watched σ} {c c₁ c₂ c' : Clock}
    {y : TryRecord} {e : Ending} (h : Accounts m d w₁ c₁ y w' c₂ e) (hw : w.Hears 0 w₁)
    (hreading : c₁.reading = c.reading) (hreads : c.reads ≤ c₁.reads)
    (hreading' : c'.reading = c₂.reading) (hreads' : c₂.reads ≤ c'.reads) :
    Accounts m d w c y w' c' e := by
  have hpassed : ∀ k, passedAt d c₁ k = passedAt d c k := by
    intro k
    rw [passedAt, hreading, passedAt]
  have hinterrupted : w₁.interrupted = w.interrupted := by
    simpa using hw.interrupted_eq
  have hhears := hw.trans h.hears
  rw [Nat.zero_add] at hhears
  refine ⟨hhears, ?_, ?_, ?_, h.length_le, ?_, ?_, ?_, h.ending_eq⟩
  · have hpercents := h.percents_eq
    rwa [hw.percents_eq] at hpercents
  · rw [hreading', h.reading_eq, hreading]
  · exact hreads.trans (h.reads_le.trans hreads')
  · intro before f later heq
    have hrun := h.running before f later heq
    rwa [hinterrupted, hw.interrupts_eq] at hrun
  · intro f hf hd
    obtain ⟨k, hk, hle, hnot⟩ := h.punctual f hf hd
    exact ⟨k, hk, hreads.trans hle, hpassed k ▸ hnot⟩
  · rw [h.timeout_iff]
    simp only [hpassed]

variable {m : Nat} {d : Option Binary64} {w w' : Watched σ} {c c' : Clock} {y : TryRecord}
  {e : Ending} {f : FlipNote}

theorem length_eq (h : Accounts m d w c y w' c' .exhausted) : y.flips.length = m := by
  have he := h.ending_eq
  split at he
  · cases he
  · split at he
    · assumption
    · split at he <;> cases he

/-- A stop was asked for before or during the try. -/
theorem interrupted_iff (h : Accounts m d w c y w' c' e) : w'.interrupted = true ↔
    w.interrupted = true ∨ ∃ f ∈ y.flips, w.interrupts.duringPercent f.percent = true := by
  rw [h.hears.interrupted_eq, ← h.percents_eq, List.any_map, Bool.or_eq_true, List.any_eq_true]
  rfl

/-- The flip during which a stop is asked for is the last one. -/
theorem eq_concat (h : Accounts m d w c y w' c' e) (hf : f ∈ y.flips)
    (hstop : w.interrupts.duringPercent f.percent = true) :
    ∃ before, y.flips = before ++ [f] := by
  obtain ⟨before, later, heq⟩ := List.append_of_mem hf
  cases later with
  | nil => exact ⟨before, heq⟩
  | cons g later =>
    rw [List.append_cons] at heq
    have hquiet := (h.running _ g later heq).2 f (by simp)
    exact absurd (hstop.symm.trans hquiet) (by decide)

theorem last_eq (h : Accounts m d w c y w' c' e) (hf : f ∈ y.flips)
    (hstop : w.interrupts.duringPercent f.percent = true) : y.last = f.after := by
  obtain ⟨before, heq⟩ := h.eq_concat hf hstop
  rw [TryRecord.last, heq, List.map_append, List.map_singleton, List.getLastD_concat]

/-- How a try ends if a stop is asked for during one of its flips, which does not solve the
    problem. -/
theorem ending_of_stop (h : Accounts m d w c y w' c' e) (hf : f ∈ y.flips)
    (hstop : w.interrupts.duringPercent f.percent = true) (hs : f.after.isSolved = false) :
    e = if y.flips.length < m then .interrupted else .exhausted := by
  have hw : w'.interrupted = true := h.interrupted_iff.mpr (.inr ⟨f, hf, hstop⟩)
  have hle := h.length_le
  rw [h.ending_eq, h.last_eq hf hstop, hs, hw]
  by_cases hm : y.flips.length = m
  · simp [hm]
  · have hlt : y.flips.length < m := Nat.lt_of_le_of_ne hle hm
    simp [hm, hlt]

/-- How a try ends if a stop was asked for before it. -/
theorem ending_of_interrupted (h : Accounts m d w c y w' c' e) (hw : w.interrupted = true)
    (hm : 0 < m) : y.flips = [] ∧ e = if y.first.isSolved then .solved else .interrupted := by
  have hnil : y.flips = [] := by
    cases hflips : y.flips with
    | nil => rfl
    | cons f later =>
      have hrun := (h.running [] f later hflips).1
      rw [hw] at hrun
      cases hrun
  have hw' : w'.interrupted = true := h.interrupted_iff.mpr (.inl hw)
  refine ⟨hnil, ?_⟩
  have hne : ¬ 0 = m := by omega
  rw [h.ending_eq, TryRecord.last, hnil, hw']
  simp [hne]

end Accounts

/-! ## Tries -/

/-- The tries of a search, at most `n`: all but the last use up their flips. -/
inductive Tries (m : Nat) (d : Option Binary64) :
    Nat → Watched σ → Clock → List TryRecord → Watched σ → Clock → Ending → Prop
  | none {w : Watched σ} {c : Clock} : Tries m d 0 w c [] w c .exhausted
  | last {n : Nat} {w w' : Watched σ} {c c' : Clock} {y : TryRecord} {e : Ending}
    (ha : Accounts m d w c y w' c' e) (he : e ≠ .exhausted) : Tries m d (n + 1) w c [y] w' c' e
  | next {n : Nat} {w w₁ w' : Watched σ} {c c₁ c' : Clock} {y : TryRecord} {ys : List TryRecord}
    {e : Ending} (ha : Accounts m d w c y w₁ c₁ .exhausted) (hr : Tries m d n w₁ c₁ ys w' c' e) :
    Tries m d (n + 1) w c (y :: ys) w' c' e

namespace Tries

variable {m n : Nat} {d : Option Binary64} {w w' : Watched σ} {c c' : Clock} {ys : List TryRecord}
  {e : Ending}

theorem length_le (h : Tries m d n w c ys w' c' e) : ys.length ≤ n := by
  induction h with
  | none => exact Nat.le_refl _
  | last => exact Nat.succ_le_succ (Nat.zero_le _)
  | next _ _ ih => exact Nat.succ_le_succ ih

theorem ne_nil (h : Tries m d (n + 1) w c ys w' c' e) : ys ≠ [] := by
  cases h <;> exact List.cons_ne_nil _ _

/-- All tries but the last use up their flips. -/
theorem flips_eq (h : Tries m d n w c ys w' c' e) : ∀ y ∈ ys.dropLast, y.flips.length = m := by
  induction h with
  | none | last => simp
  | @next n w w₁ w' c c₁ c' y ys e ha hr ih =>
    intro z hz
    cases ys with
    | nil => cases hz
    | cons x ys =>
      rw [List.dropLast_cons_of_ne_nil (List.cons_ne_nil x ys)] at hz
      rcases List.mem_cons.mp hz with rfl | hz
      · exact ha.length_eq
      · exact ih z hz

theorem length_flips_le (h : Tries m d n w c ys w' c' e) :
    (ys.flatMap (·.flips)).length ≤ ys.length * m := by
  induction h with
  | none => simp
  | last ha => simpa using ha.length_le
  | next ha _ ih =>
    have hlen := ha.length_le
    rw [List.flatMap_cons, List.length_append, List.length_cons, Nat.succ_mul]
    omega

theorem length_flips_ge (h : Tries m d n w c ys w' c' e) :
    (ys.length - 1) * m ≤ (ys.flatMap (·.flips)).length := by
  induction h with
  | none | last => simp
  | @next n w w₁ w' c c₁ c' y ys e ha hr ih =>
    have hlen := ha.length_eq
    rw [List.flatMap_cons, List.length_append, List.length_cons, Nat.add_sub_cancel]
    cases ys with
    | nil => simp
    | cons x ys =>
      rw [List.length_cons, Nat.add_sub_cancel] at ih
      rw [List.length_cons, Nat.succ_mul]
      omega

/-- A search that comes to the end of its budget has used all of it. -/
theorem of_exhausted (h : Tries m d n w c ys w' c' e) (he : e = .exhausted) :
    ys.length = n ∧ (ys.flatMap (·.flips)).length = n * m := by
  induction h with
  | none => simp
  | last _ hne => exact absurd he hne
  | next ha _ ih =>
    obtain ⟨hlen, hall⟩ := ih he
    refine ⟨congrArg (· + 1) hlen, ?_⟩
    rw [List.flatMap_cons, List.length_append, hall, ha.length_eq, Nat.succ_mul, Nat.add_comm]

theorem timeout_iff (h : Tries m d n w c ys w' c' e) :
    e = .timeout ↔ ∃ y ∈ ys, ∃ k ∈ y.checks, passedAt d c k = true := by
  induction h with
  | none => simp
  | last ha => simpa using ha.timeout_iff
  | @next n w w₁ w' c c₁ c' y ys e ha _ ih =>
    have hpassed : ∀ k, passedAt d c₁ k = passedAt d c k := by
      intro k
      rw [passedAt, ha.reading_eq, passedAt]
    have hfirst : ¬ ∃ k ∈ y.checks, passedAt d c k = true := by
      rw [← ha.timeout_iff]
      decide
    simp only [hpassed] at ih
    rw [ih, List.exists_mem_cons_iff, or_iff_right hfirst]

/-- The questions whether to walk at random are those of the flips, in order. -/
theorem hears (h : Tries m d n w c ys w' c' e) :
    w.Hears (ys.flatMap (·.flips)).length w' ∧
      (ys.flatMap (·.flips)).map (·.percent) =
        List.range' w.percents (ys.flatMap (·.flips)).length := by
  induction h with
  | none => exact ⟨.refl _, rfl⟩
  | last ha => simpa using ⟨ha.hears, ha.percents_eq⟩
  | next ha _ ih =>
    obtain ⟨hw, hp⟩ := ih
    rw [List.flatMap_cons, List.length_append, List.map_append, ha.percents_eq, hp,
      ha.hears.percents_eq, List.range'_append_1]
    exact ⟨ha.hears.trans hw, rfl⟩

/-- No stop was asked for before a flip is made. -/
theorem running (h : Tries m d n w c ys w' c' e) {before later : List FlipNote} {f : FlipNote}
    (heq : ys.flatMap (·.flips) = before ++ f :: later) :
    w.interrupted = false ∧ ∀ g ∈ before, w.interrupts.duringPercent g.percent = false := by
  induction h generalizing before with
  | none => simp at heq
  | last ha => exact ha.running before f later (by simpa using heq)
  | @next n w w₁ w' c c₁ c' y ys e ha _ ih =>
    have hrest : ∀ rest, ys.flatMap (·.flips) = rest ++ f :: later →
        w.interrupted = false ∧
          ∀ g ∈ y.flips ++ rest, w.interrupts.duringPercent g.percent = false := by
      intro rest hrest
      obtain ⟨hquiet, hbefore⟩ := ih hrest
      rw [Bool.eq_false_iff, ne_eq, ha.interrupted_iff, not_or] at hquiet
      rw [ha.hears.interrupts_eq] at hbefore
      refine ⟨by simpa using hquiet.1, fun g hg => ?_⟩
      rcases List.mem_append.mp hg with hg | hg
      · rw [Bool.eq_false_iff]
        exact fun hstop => hquiet.2 ⟨g, hg, hstop⟩
      · exact hbefore g hg
    rw [List.flatMap_cons, List.append_eq_append_iff] at heq
    -- The flip is one of a later try, or one of this try unless nothing of it is left.
    rcases heq with ⟨rest, rfl, heq⟩ | ⟨rest, hy, heq⟩
    · exact hrest rest heq
    · cases rest with
      | nil =>
        rw [List.append_nil] at hy
        rw [← hy, ← List.append_nil y.flips]
        exact hrest [] heq.symm
      | cons g rest =>
        obtain ⟨rfl, -⟩ := List.cons.inj heq
        exact ha.running before f rest hy

/-- The last reading of the clock before a flip was before the deadline. -/
theorem punctual (h : Tries m d n w c ys w' c' e) :
    ∀ f ∈ ys.flatMap (·.flips), d.isSome →
      ∃ k, f.reads = k + 1 ∧ c.reads ≤ k ∧ passedAt d c k = false := by
  induction h with
  | none => simp
  | last ha => simpa using ha.punctual
  | @next n w w₁ w' c c₁ c' y ys e ha _ ih =>
    intro f hf hd
    rw [List.flatMap_cons, List.mem_append] at hf
    rcases hf with hf | hf
    · exact ha.punctual f hf hd
    · obtain ⟨k, hk, hle, hnot⟩ := ih f hf hd
      rw [passedAt, ha.reading_eq] at hnot
      exact ⟨k, hk, ha.reads_le.trans hle, hnot⟩

/-- No flip is made after a reading at which the deadline has passed, if the clock does not go back
    from one reading before the first try on. -/
theorem passedAt_eq_false {f : FlipNote} {k : Nat} (h : Tries m d n w c.next ys w' c' e)
    (hclock : ∀ i, c.reads ≤ i → (c.reading i).le (c.reading (i + 1)) = true)
    (hf : f ∈ ys.flatMap (·.flips)) (hk : c.reads ≤ k) (hlt : k < f.reads) :
    passedAt d c k = false := by
  cases d with
  | none => rfl
  | some x =>
    obtain ⟨j, hj, -, hnot⟩ := h.punctual f hf rfl
    rw [Bool.eq_false_iff]
    intro hpassed
    have hlate : x.le (c.reading j) = true := Clock.le_of_le hclock hk (by omega) hpassed
    exact absurd (hlate.symm.trans hnot) (by decide)

/-- No flip is made after one during which a stop is asked for. -/
theorem eq_nil_of_stop {before later : List FlipNote} {f : FlipNote}
    (h : Tries m d n w c ys w' c' e) (heq : ys.flatMap (·.flips) = before ++ f :: later)
    (hstop : w.interrupts.duringPercent f.percent = true) : later = [] := by
  cases later with
  | nil => rfl
  | cons g later =>
    rw [List.append_cons] at heq
    have hquiet := (h.running heq).2 f (by simp)
    exact absurd (hstop.symm.trans hquiet) (by decide)

theorem interrupted_of_ending (h : Tries m d n w c ys w' c' e) (he : e = .interrupted) :
    w'.interrupted = true := by
  induction h with
  | none => cases he
  | last ha =>
    subst he
    have heq := ha.ending_eq
    split at heq
    · cases heq
    · split at heq
      · cases heq
      · split at heq
        · assumption
        · cases heq
  | next _ _ ih => exact ih he

/-- A search of which a stop was asked for before makes one try at most, and no flip. -/
theorem of_interrupted (h : Tries m d (n + 1) w c ys w' c' e) (hw : w.interrupted = true)
    (hm : 0 < m) : ∃ y, ys = [y] ∧ e = if y.first.isSolved then .solved else .interrupted := by
  cases h with
  | @last _ _ _ _ _ y _ ha _ => exact ⟨y, rfl, (ha.ending_of_interrupted hw hm).2⟩
  | next ha _ =>
    have hlen := ha.length_eq
    rw [(ha.ending_of_interrupted hw hm).1] at hlen
    exact absurd hlen (Nat.ne_of_lt hm)

/-- How a search ends if a stop is asked for during one of its flips, which does not solve the
    problem: a try that has flips left ends there, the last try leaves no more to do, and the next
    try ends as soon as its first problem is built. -/
theorem ending_of_stop (h : Tries m d n w c ys w' c' e) {before later : List TryRecord}
    {y : TryRecord} {f : FlipNote} (heq : ys = before ++ y :: later) (hf : f ∈ y.flips)
    (hstop : w.interrupts.duringPercent f.percent = true) (hs : f.after.isSolved = false) :
    e = if y.flips.length < m then .interrupted
      else if before.length + 1 = n then .exhausted
      else if later.head?.any (·.first.isSolved) then .solved
      else .interrupted := by
  induction h generalizing before with
  | none => simp at heq
  | @last n w w' c c' x e ha he =>
    cases before with
    | nil =>
      obtain ⟨rfl, -⟩ := List.cons.inj heq
      have hend := ha.ending_of_stop hf hstop hs
      by_cases hlt : x.flips.length < m
      · rw [hend, if_pos hlt, if_pos hlt]
      · rw [if_neg hlt] at hend
        exact absurd hend he
    | cons b before =>
      have htail := (List.cons.inj heq).2
      simp at htail
  | @next n w w₁ w' c c₁ c' x ys e ha hr ih =>
    cases before with
    | nil =>
      obtain ⟨rfl, rfl⟩ := List.cons.inj heq
      have hlen := ha.length_eq
      have hm : 0 < m := hlen ▸ List.length_pos_of_mem hf
      have hw : w₁.interrupted = true := ha.interrupted_iff.mpr (.inr ⟨f, hf, hstop⟩)
      rw [if_neg (Nat.not_lt.mpr (Nat.le_of_eq hlen.symm)), List.length_nil]
      cases n with
      | zero =>
        cases hr
        rfl
      | succ n =>
        obtain ⟨z, rfl, he⟩ := hr.of_interrupted hw hm
        have hne : ¬ 0 + 1 = n + 1 + 1 := by omega
        rw [he, if_neg hne]
        rfl
    | cons b before =>
      obtain ⟨rfl, htail⟩ := List.cons.inj heq
      have hnext := ih htail (by rw [ha.hears.interrupts_eq]; exact hstop)
      rw [hnext, List.length_cons]
      simp only [Nat.succ_inj]

end Tries

end FlipSat
