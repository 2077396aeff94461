import FlipSat.DenseSet
import FlipSat.Proofs.EraseDups

/-
  FlipSat: a dense set is a list without repetition together with the slot of each member.
  `Sound` says that the map of slots and the array of members agree. Insertion and removal keep it;
  the members after `insert` are the old ones and the new one, the members after `erase?` are the
  old ones without the one taken out, and `erase?` fails exactly on what is no member.
  `toList_erase` gives their order too.
-/
namespace FlipSat.DenseSet

variable {α : Type} [DecidableEq α] [Hashable α] {s t : DenseSet α} {a b : α}

/-- The map of slots knows the slot of each member, and nothing else. -/
structure Sound (s : DenseSet α) : Prop where
  slot_iff : ∀ (a : α) (k : Nat), s.slots[a]? = some k ↔ s.items[k]? = some a

theorem sound_empty : Sound ({} : DenseSet α) where
  slot_iff a k := by simp

theorem Sound.contains_iff (h : s.Sound) : s.contains a = true ↔ a ∈ s.toList := by
  rw [contains, Std.HashMap.contains_eq_isSome_getElem?, Option.isSome_iff_exists, toList,
    List.mem_iff_getElem?]
  simp only [h.slot_iff, Array.getElem?_toList]

/-- The map of slots has the members as its keys. -/
theorem Sound.mem_members (h : s.Sound) : a ∈ s.members ↔ a ∈ s.toList := by
  rw [members, Std.HashMap.mem_keys, ← h.contains_iff, contains, Std.HashMap.contains_iff_mem]

theorem Sound.nodup (h : s.Sound) : s.toList.Nodup := by
  rw [List.nodup_iff_getElem?_ne_getElem?]
  intro i j hij hj heq
  have hb : s.items[j]? = some s.toList[j] := by simp [toList]
  have ha : s.items[i]? = some s.toList[j] := by rw [← hb]; simpa [toList] using heq
  have := ((h.slot_iff _ _).mpr ha).symm.trans ((h.slot_iff _ _).mpr hb)
  exact Nat.ne_of_lt hij (Option.some.inj this)

/-- Each member is in exactly one slot. -/
theorem Sound.existsUnique_slot (h : s.Sound) (ha : a ∈ s.toList) :
    ∃! k : Nat, s.toList[k]? = some a := by
  obtain ⟨k, hk⟩ := List.mem_iff_getElem?.mp ha
  refine ⟨k, hk, ?_⟩
  intro j hj
  have hlt := (List.getElem?_eq_some_iff.mp hj).1
  exact (List.getElem?_inj hlt h.nodup).mp (hj.trans hk.symm)

/-! ## Insertion -/

theorem toList_insert (h : s.Sound) (a : α) :
    (s.insert a).toList = if a ∈ s.toList then s.toList else s.toList ++ [a] := by
  unfold insert
  have hc := h.contains_iff (a := a)
  rw [contains] at hc
  by_cases ha : a ∈ s.toList
  · rw [if_pos (hc.mpr ha), if_pos ha]
  · rw [if_neg (fun hs => ha (hc.mp hs)), if_neg ha]
    simp [toList]

theorem mem_insert (h : s.Sound) : b ∈ (s.insert a).toList ↔ b ∈ s.toList ∨ b = a := by
  rw [toList_insert h]
  split <;> simp_all

theorem Sound.insert (h : s.Sound) (a : α) : (s.insert a).Sound := by
  unfold DenseSet.insert
  split
  · exact h
  · next hc =>
    have hnew : ∀ k : Nat, s.items[k]? ≠ some a := by
      intro k hk
      have := h.contains_iff.mpr (List.mem_of_getElem? (by simpa [toList] using hk))
      exact hc this
    refine ⟨fun b k => ?_⟩
    rw [Std.HashMap.getElem?_insert, Array.getElem?_push]
    by_cases hb : a = b
    · subst hb
      have := hnew k
      grind
    · have hk : s.slots[b]? = some k → k ≠ s.items.size := by
        intro hs hk
        rw [h.slot_iff, hk] at hs
        simp at hs
      have := h.slot_iff b k
      grind

theorem sound_foldl_insert (as : List α) (h : s.Sound) : (as.foldl insert s).Sound := by
  induction as generalizing s with
  | nil => exact h
  | cons a as ih => exact ih (h.insert a)

/-- What is already there keeps its place, and each new member comes last. -/
theorem toList_foldl_insert (as : List α) (h : s.Sound) :
    (as.foldl insert s).toList = (s.toList ++ as).eraseDups := by
  induction as using List.reverseRecOn with
  | nil => rw [List.foldl_nil, List.append_nil, eraseDups_of_nodup h.nodup]
  | append_singleton as a ih =>
    rw [List.foldl_append, List.foldl_cons, List.foldl_nil,
      toList_insert (sound_foldl_insert as h), ih, ← List.append_assoc, eraseDups_concat]
    exact if_congr List.mem_eraseDups rfl rfl

theorem sound_ofList (as : List α) : (ofList as).Sound := sound_foldl_insert as sound_empty

/-- The set of a list has its members where they stand first. -/
theorem toList_ofList (as : List α) : (ofList as).toList = as.eraseDups :=
  toList_foldl_insert as sound_empty

/-! ## Removal -/

/-- Removal fails exactly on what is no member. -/
theorem erase?_eq_none_iff (h : s.Sound) : s.erase? a = none ↔ a ∉ s.toList := by
  rw [← h.contains_iff, contains, Std.HashMap.contains_eq_isSome_getElem?]
  unfold erase?
  cases s.slots[a]? with
  | none => simp
  | some k =>
    cases s.items.back? with
    | none => simp
    | some last => by_cases hl : last = a <;> simp [hl]

theorem erase?_eq_some (h : s.Sound) (he : s.erase? a = some t) :
    ∃ (k : Nat) (last : α), s.items[k]? = some a ∧ s.items.back? = some last ∧
      t.items = s.items.pop.setIfInBounds k last ∧
      t.slots = if last = a then s.slots.erase a else (s.slots.erase a).insert last k := by
  unfold erase? at he
  cases hk : s.slots[a]? with
  | none => simp [hk] at he
  | some k =>
    have hi := (h.slot_iff a k).mp hk
    cases hb : s.items.back? with
    | none => grind
    | some last =>
      refine ⟨k, last, hi, rfl, ?_⟩
      by_cases hl : last = a
      · have hlast : k + 1 = s.items.size := by
          have := (h.slot_iff a (s.items.size - 1)).mpr (by grind)
          grind
        simp only [hk, hb, if_pos hl, Option.some.injEq] at he
        subst he
        grind
      · simp only [hk, hb, if_neg hl, Option.some.injEq] at he
        subst he
        grind

theorem Sound.erase (h : s.Sound) (he : s.erase? a = some t) : t.Sound := by
  obtain ⟨k, last, hk, hb, hitems, hslots⟩ := erase?_eq_some h he
  refine ⟨fun b j => ?_⟩
  rw [hitems, hslots]
  have hlast : s.items[s.items.size - 1]? = some last := by grind
  have h1 := h.slot_iff b j
  have h2 := h.slot_iff last (s.items.size - 1)
  have h3 := h.slot_iff a k
  have h4 := h.slot_iff b (s.items.size - 1)
  have h5 := h.slot_iff b k
  split <;> grind

theorem mem_erase (h : s.Sound) (he : s.erase? a = some t) :
    b ∈ t.toList ↔ b ∈ s.toList ∧ b ≠ a := by
  obtain ⟨k, last, -, hb, -, hslots⟩ := erase?_eq_some h he
  have hlast : s.contains last = true := by
    rw [h.contains_iff, toList]
    exact List.mem_of_getElem? (i := s.items.size - 1) (by grind)
  rw [contains] at hlast
  rw [← h.contains_iff, ← (h.erase he).contains_iff, contains, contains, hslots]
  split <;> grind

/-- A list without one of its members, the last member moved into the place that becomes free. -/
def swapErase (as : List α) (a : α) : List α :=
  if a ∈ as then (as.set (as.idxOf a) (as.getLastD a)).dropLast else as

theorem toList_erase (h : s.Sound) (he : s.erase? a = some t) :
    t.toList = swapErase s.toList a := by
  obtain ⟨k, last, hk, hb, hitems, -⟩ := erase?_eq_some h he
  have hget : s.toList[k]? = some a := by simpa [toList] using hk
  obtain ⟨hlt, hak⟩ := List.getElem?_eq_some_iff.mp hget
  have hidx : s.toList.idxOf a = k := by rw [← hak, h.nodup.idxOf_getElem]
  have hlast : s.toList.getLastD a = last := by
    rw [List.getLastD_eq_getLast?, toList, Array.getLast?_toList, hb]
    rfl
  rw [swapErase, if_pos (List.mem_of_getElem? hget), hidx, hlast, toList, hitems,
    Array.toList_setIfInBounds, Array.toList_pop]
  refine List.ext_getElem? fun j => ?_
  grind [toList]

end FlipSat.DenseSet
