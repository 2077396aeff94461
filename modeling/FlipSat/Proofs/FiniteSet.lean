import FlipSat.Proofs.DenseSet
import Mathlib.Data.Finset.Card
import Mathlib.Data.Finset.Dedup

/-
  FlipSat: a dense set is a finite set of indices.
  Each member stands for the thing with its index, and different members have different indices.
  `Mirrors` says that the array and the map of slots hold a finite set `u` of indices: no index
  twice, each in the slot that the map knows. Every operation does to the array and the map what it
  does to `u` (`Mirrors.perform`), hence so does every list of operations (`Mirrors.performAll`).
  `Obeys` says what a single operation does to the order of the members, and when it is refused;
  `Draws` says which member is drawn. `mirrors_finset` puts the three together for every set that
  can be reached.
-/
namespace FlipSat.DenseSet

variable {α : Type} [DecidableEq α] [Hashable α]

/-- What is done to a set. -/
inductive Operation (α : Type) where
  | add (a : α)
  | remove (a : α)
  | discard (a : α)

/-- The same done to a finite set of indices. -/
def Operation.onIndices (index : α → Int) (u : Finset Int) : Operation α → Finset Int
  | .add a => Insert.insert (index a) u
  | .remove a => u.erase (index a)
  | .discard a => u.erase (index a)

/-- The set after an operation, and the fault of the operation. The removal of what is no member is
    refused. -/
def perform (index : α → Int) (s : DenseSet α) : Operation α → DenseSet α × Option Fault
  | .add a => (s.insert a, none)
  | .remove a =>
    match s.erase? a with
    | some t => (t, none)
    | none => (s, some (.notMember (index a)))
  | .discard a => (s.discard a, none)

/-- The set after a list of operations. -/
def performAll (index : α → Int) (s : DenseSet α) (os : List (Operation α)) : DenseSet α :=
  os.foldl (fun s o => (s.perform index o).1) s

/-- The set holds the indices `u`: each has just one slot, and the map knows which. All that can be
    asked about members is answered as `u` does. -/
structure Mirrors (index : α → Int) (s : DenseSet α) (u : Finset Int) : Prop where
  nodup : (s.toList.map index).Nodup
  slot_iff : ∀ (a : α) (k : Nat), s.slots[a]? = some k ↔ s.toList[k]? = some a
  toFinset_eq : (s.toList.map index).toFinset = u
  members_eq : (s.members.map index).toFinset = u
  contains_iff : ∀ a, s.contains a = true ↔ index a ∈ u
  size_eq : s.size = u.card

/-- The second list is the first one without its entry at place `k`, which the last entry has taken.
    Every other entry is where it was. -/
structure Freed (as : List α) (k : Nat) (bs : List α) : Prop where
  length_eq : bs.length + 1 = as.length
  getElem?_eq : ∀ j < bs.length, bs[j]? = if j = k then as.getLast? else as[j]?

/-- What an operation does to a set that holds the indices `u`. -/
structure Obeys (index : α → Int) (s : DenseSet α) (u : Finset Int) : Prop where
  add_present : ∀ a, index a ∈ u → s.perform index (.add a) = (s, none)
  add_absent : ∀ a, index a ∉ u →
    ∃ t, s.perform index (.add a) = (t, none) ∧ t.toList = s.toList ++ [a]
  remove_absent : ∀ a, index a ∉ u →
    s.perform index (.remove a) = (s, some (.notMember (index a)))
  discard_absent : ∀ a, index a ∉ u → s.perform index (.discard a) = (s, none)
  remove_present : ∀ a, index a ∈ u → ∃ k t, s.toList[k]? = some a ∧
    s.perform index (.remove a) = (t, none) ∧ s.perform index (.discard a) = (t, none) ∧
    Freed s.toList k t.toList

/-- What can be drawn from a set that holds the indices `u`: by any source the member in the slot
    drawn, and every member from just one slot. -/
structure Draws (index : α → Int) (s : DenseSet α) (u : Finset Int) : Prop where
  choose_eq : ∀ {σ : Type} [RandomSource σ] (source : σ) (h : 0 < s.items.size),
    ∃ a, s.toList[(RandomSource.choose source s.items.size h).1.val]? = some a ∧ index a ∈ u ∧
      s.choose source = .ok (a, (RandomSource.choose source s.items.size h).2)
  choose_empty : ∀ {σ : Type} [RandomSource σ] (source : σ), u = ∅ →
    s.choose source = .error .emptyChoice
  existsUnique_slot : ∀ i ∈ u, ∃! k : Nat, k < s.items.size ∧
    ∃ a source, s.choose (Script.mk [(k : Int)]) = .ok (a, source) ∧ index a = i

variable {index : α → Int} {s t : DenseSet α} {u : Finset Int} {a : α}

/-! ## Indices of the members -/

theorem mem_indices {i : Int} :
    i ∈ (s.toList.map index).toFinset ↔ ∃ a ∈ s.toList, index a = i := by
  rw [List.mem_toFinset, List.mem_map]

theorem index_mem_indices (hindex : Function.Injective index) :
    index a ∈ (s.toList.map index).toFinset ↔ a ∈ s.toList := by
  rw [List.mem_toFinset, List.mem_map_of_injective hindex]

theorem indices_ofList (as : List α) :
    ((ofList as).toList.map index).toFinset = (as.map index).toFinset := by
  ext i
  rw [mem_indices, toList_ofList, List.mem_toFinset, List.mem_map]
  simp only [List.mem_eraseDups]

theorem indices_insert (h : s.Sound) (a : α) :
    ((s.insert a).toList.map index).toFinset =
      Insert.insert (index a) (s.toList.map index).toFinset := by
  ext i
  rw [Finset.mem_insert, mem_indices, mem_indices]
  constructor
  · rintro ⟨b, hb, rfl⟩
    rcases (mem_insert h).mp hb with hb | rfl
    · exact .inr ⟨b, hb, rfl⟩
    · exact .inl rfl
  · rintro (rfl | ⟨b, hb, rfl⟩)
    · exact ⟨a, (mem_insert h).mpr (.inr rfl), rfl⟩
    · exact ⟨b, (mem_insert h).mpr (.inl hb), rfl⟩

/-- Here different members need different indices: another member with the index of `a` would keep
    it in the set. -/
theorem indices_erase (hindex : Function.Injective index) (h : s.Sound)
    (he : s.erase? a = some t) :
    (t.toList.map index).toFinset = (s.toList.map index).toFinset.erase (index a) := by
  ext i
  rw [Finset.mem_erase, mem_indices, mem_indices]
  constructor
  · rintro ⟨b, hb, rfl⟩
    obtain ⟨hbs, hne⟩ := (mem_erase h he).mp hb
    exact ⟨fun heq => hne (hindex heq), b, hbs, rfl⟩
  · rintro ⟨hne, b, hbs, rfl⟩
    have hba : b ≠ a := fun heq => hne (congrArg index heq)
    exact ⟨b, (mem_erase h he).mpr ⟨hbs, hba⟩, rfl⟩

/-! ## One operation -/

theorem insert_of_mem (h : s.Sound) (ha : a ∈ s.toList) : s.insert a = s := by
  have hslot : s.slots.contains a = true := h.contains_iff.mpr ha
  unfold insert
  rw [if_pos hslot]

theorem discard_of_erase (he : s.erase? a = some t) : s.discard a = t := by
  rw [discard, he, Option.getD_some]

theorem discard_of_not_mem (h : s.Sound) (ha : a ∉ s.toList) : s.discard a = s := by
  rw [discard, (erase?_eq_none_iff h).mpr ha, Option.getD_none]

/-- A removal and a discard differ only in the fault. -/
theorem perform_remove (index : α → Int) (s : DenseSet α) (a : α) :
    (s.perform index (.remove a)).1 = s.discard a := by
  rw [perform, discard]
  cases s.erase? a with
  | none => rfl
  | some t => rfl

theorem exists_erase (h : s.Sound) (ha : a ∈ s.toList) : ∃ t, s.erase? a = some t := by
  cases he : s.erase? a with
  | none => exact absurd ha ((erase?_eq_none_iff h).mp he)
  | some t => exact ⟨t, rfl⟩

/-- The last member takes the slot that becomes free, and no other member moves. -/
theorem freed_of_erase (h : s.Sound) (he : s.erase? a = some t) :
    ∃ k, s.toList[k]? = some a ∧ Freed s.toList k t.toList := by
  obtain ⟨k, last, hk, hlast, hitems, -⟩ := erase?_eq_some h he
  have hsize : k < s.items.size := (Array.getElem?_eq_some_iff.mp hk).1
  refine ⟨k, by rw [toList, Array.getElem?_toList, hk], ?_, ?_⟩
  · rw [toList, toList, hitems, Array.length_toList, Array.length_toList,
      Array.size_setIfInBounds, Array.size_pop]
    omega
  · intro j hj
    rw [toList, hitems, Array.length_toList, Array.size_setIfInBounds] at hj
    rw [toList, toList, hitems, Array.getElem?_toList, Array.getElem?_toList,
      Array.getLast?_toList, hlast, Array.getElem?_setIfInBounds]
    by_cases hjk : j = k
    · subst hjk
      rw [if_pos rfl, if_pos hj, if_pos rfl]
    · rw [if_neg (Ne.symm hjk), if_neg hjk, Array.getElem?_pop, if_pos]
      rw [Array.size_pop] at hj
      omega

/-! ## Drawing -/

/-- A draw gives the member in the slot that the source answers. -/
theorem choose_of_pos {σ : Type} [RandomSource σ] (source : σ) (h : 0 < s.items.size) :
    ∃ a, s.toList[(RandomSource.choose source s.items.size h).1.val]? = some a ∧
      s.choose source = .ok (a, (RandomSource.choose source s.items.size h).2) := by
  refine ⟨s.items[(RandomSource.choose source s.items.size h).1], ?_, ?_⟩
  · rw [toList, Array.getElem?_toList]
    exact Array.getElem?_eq_getElem (RandomSource.choose source s.items.size h).1.isLt
  · rw [choose, dif_pos h]

/-- A script can ask for any slot. -/
theorem choose_script {k : Nat} (h : k < s.items.size) :
    ∃ a source, s.toList[k]? = some a ∧ s.choose (Script.mk [(k : Int)]) = .ok (a, source) := by
  have hpos : 0 < s.items.size := by omega
  obtain ⟨a, ha, hchoose⟩ := choose_of_pos (Script.mk [(k : Int)]) hpos
  refine ⟨a, _, ?_, hchoose⟩
  have hslot : (RandomSource.choose (Script.mk [(k : Int)]) s.items.size hpos).1.val = k := by
    show ((k : Int) % (s.items.size : Int)).toNat = k
    rw [Int.emod_eq_of_lt (by omega) (by omega), Int.toNat_natCast]
  rwa [hslot] at ha

/-! ## Sets that hold given indices -/

namespace Mirrors

theorem sound (h : s.Mirrors index u) : s.Sound where
  slot_iff a k := by rw [h.slot_iff, toList, Array.getElem?_toList]

theorem mem_iff (hindex : Function.Injective index) (h : s.Mirrors index u) :
    index a ∈ u ↔ a ∈ s.toList := by
  rw [← h.toFinset_eq, index_mem_indices hindex]

theorem of_sound (hindex : Function.Injective index) (h : s.Sound)
    (hu : (s.toList.map index).toFinset = u) : s.Mirrors index u where
  nodup := h.nodup.map hindex
  slot_iff a k := by rw [h.slot_iff, toList, Array.getElem?_toList]
  toFinset_eq := hu
  members_eq := by
    rw [← hu]
    ext i
    rw [mem_indices, List.mem_toFinset, List.mem_map]
    simp only [h.mem_members]
  contains_iff a := by
    rw [h.contains_iff, ← hu, index_mem_indices hindex]
  size_eq := by
    rw [← hu, List.toFinset_card_of_nodup (h.nodup.map hindex), List.length_map]
    rfl

theorem discard (hindex : Function.Injective index) (h : s.Mirrors index u) (a : α) :
    (s.discard a).Mirrors index (u.erase (index a)) := by
  by_cases ha : a ∈ s.toList
  · obtain ⟨t, ht⟩ := exists_erase h.sound ha
    rw [discard_of_erase ht, ← h.toFinset_eq]
    exact of_sound hindex (h.sound.erase ht) (indices_erase hindex h.sound ht)
  · rw [discard_of_not_mem h.sound ha, Finset.erase_eq_of_notMem]
    · exact h
    · rw [h.mem_iff hindex]
      exact ha

/-- An operation does to the set what it does to the indices. -/
theorem perform (hindex : Function.Injective index) (h : s.Mirrors index u) (o : Operation α) :
    (s.perform index o).1.Mirrors index (o.onIndices index u) := by
  cases o with
  | add a =>
    refine of_sound hindex (h.sound.insert a) ?_
    rw [Operation.onIndices, ← h.toFinset_eq]
    exact indices_insert h.sound a
  | remove a =>
    rw [perform_remove]
    exact h.discard hindex a
  | discard a => exact h.discard hindex a

theorem performAll (hindex : Function.Injective index) (h : s.Mirrors index u)
    (os : List (Operation α)) :
    (s.performAll index os).Mirrors index (os.foldl (Operation.onIndices index) u) := by
  induction os generalizing s u with
  | nil => exact h
  | cons o os ih => exact ih (h.perform hindex o)

theorem obeys (hindex : Function.Injective index) (h : s.Mirrors index u) : s.Obeys index u where
  add_present a ha := by
    rw [DenseSet.perform, insert_of_mem h.sound ((h.mem_iff hindex).mp ha)]
  add_absent a ha := by
    rw [h.mem_iff hindex] at ha
    exact ⟨_, rfl, by rw [toList_insert h.sound, if_neg ha]⟩
  remove_absent a ha := by
    rw [h.mem_iff hindex] at ha
    rw [DenseSet.perform, (erase?_eq_none_iff h.sound).mpr ha]
  discard_absent a ha := by
    rw [h.mem_iff hindex] at ha
    rw [DenseSet.perform, discard_of_not_mem h.sound ha]
  remove_present a ha := by
    obtain ⟨t, ht⟩ := exists_erase h.sound ((h.mem_iff hindex).mp ha)
    obtain ⟨k, hk, hfreed⟩ := freed_of_erase h.sound ht
    refine ⟨k, t, hk, ?_, ?_, hfreed⟩
    · rw [DenseSet.perform, ht]
    · rw [DenseSet.perform, discard_of_erase ht]

theorem draws (hindex : Function.Injective index) (h : s.Mirrors index u) : s.Draws index u where
  choose_eq source hpos := by
    obtain ⟨a, ha, hchoose⟩ := choose_of_pos source hpos
    refine ⟨a, ha, ?_, hchoose⟩
    rw [h.mem_iff hindex]
    exact List.mem_of_getElem? ha
  choose_empty source hu := by
    have hsize : s.items.size = 0 := by
      have hcard := h.size_eq
      rwa [hu, Finset.card_empty] at hcard
    rw [choose, dif_neg (by omega)]
  existsUnique_slot i hi := by
    rw [← h.toFinset_eq, mem_indices] at hi
    obtain ⟨a, ha, rfl⟩ := hi
    obtain ⟨k, hk, hunique⟩ := h.sound.existsUnique_slot ha
    have hlt : k < s.items.size := (List.getElem?_eq_some_iff.mp hk).1
    refine ⟨k, ⟨hlt, ?_⟩, ?_⟩
    · obtain ⟨b, source, hb, hchoose⟩ := choose_script hlt
      obtain rfl : a = b := Option.some.inj (hk.symm.trans hb)
      exact ⟨a, source, hchoose, rfl⟩
    · intro j ⟨hj, b, source, hchoose, heq⟩
      obtain ⟨c, other, hc, hscript⟩ := choose_script hj
      rw [hchoose] at hscript
      cases hscript
      rw [hindex heq] at hc
      exact hunique j hc

end Mirrors

/-- Whatever is added, removed and discarded, a dense set holds the indices that a finite set holds
    after the same operations; its next operation does what it does to the finite set, and moves no
    member but the last one; and each of its members is drawn from exactly one slot. -/
theorem mirrors_finset (hindex : Function.Injective index) (as : List α)
    (os : List (Operation α)) :
    let s := (ofList as).performAll index os
    let u := os.foldl (Operation.onIndices index) (as.map index).toFinset
    s.Mirrors index u ∧ s.Obeys index u ∧ s.Draws index u := by
  intro s u
  have hstart : (ofList as).Mirrors index (as.map index).toFinset :=
    .of_sound hindex (sound_ofList as) (indices_ofList as)
  have h : s.Mirrors index u := hstart.performAll hindex os
  exact ⟨h, h.obeys hindex, h.draws hindex⟩

/-- The only member is removed, then a member that is not the last one, and one is missing. -/
theorem mirrors_finset_of_places :
    let s := (ofList [7]).performAll Int.ofNat [.remove 7, .add 3, .add 5, .add 4, .remove 3]
    Function.Injective Int.ofNat ∧ s.toList = [4, 5] ∧ s.Mirrors Int.ofNat {4, 5} ∧
      s.perform Int.ofNat (.remove 3) = (s, some (.notMember 3)) := by
  intro s
  have hindex : Function.Injective Int.ofNat := fun _ _ h => Int.ofNat.inj h
  obtain ⟨hmirrors, hobeys, -⟩ := mirrors_finset hindex [7]
    [.remove 7, .add 3, .add 5, .add 4, .remove 3]
  have hu : [Operation.remove 7, .add 3, .add 5, .add 4, .remove 3].foldl
      (Operation.onIndices Int.ofNat) ([7].map Int.ofNat).toFinset = {4, 5} := by decide
  rw [hu] at hmirrors hobeys
  have hlist : ((ofList [7]).performAll Int.ofNat
      [.remove 7, .add 3, .add 5, .add 4, .remove 3]).toList = [4, 5] := by cbv
  exact ⟨hindex, hlist, hmirrors, hobeys.remove_absent 3 (by decide)⟩

end FlipSat.DenseSet
