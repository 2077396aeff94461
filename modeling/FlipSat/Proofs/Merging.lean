import FlipSat.Proofs.Except
import FlipSat.Proofs.Place

/-
  FlipSat: what merging changes, and what it leaves alone.
  Merging at or below an entry of a table spares the other entries of that table, whatever is merged
  and however deep (`Spared`, by induction on what is merged). With this the entries of a section
  are known after others have been merged into it: one that was given stands there, and every other
  one is what it was (`entries_of_mergeEntries`).
-/
namespace FlipSat

variable {clash : Raised} {root root' root'' : Value} {q r place : Place} {k : Key} {n : String}
  {v w : Value} {es : Entries} {K : List (String × Value)}

/-! ## Inversion -/

/-- A value is put at the place, after a reference there was replaced by a copy, or it is a table
    and its entries are merged into the table that stands there. -/
theorem mergeAt_inv (h : mergeAt clash root place v = .ok root') :
    root' = (root.copyReferenced place).putAt place v ∨
      ∃ es fs, v = .table es ∧ (root.copyReferenced place).at? place = some (.table fs) ∧
        mergeEntries clash (root.copyReferenced place) place es = .ok root' := by
  cases v with
  | table es =>
    rw [mergeAt] at h
    split at h
    · next fs hfs => exact .inr ⟨es, fs, rfl, hfs, h⟩
    · cases h
    · cases h
    · exact .inl (Except.ok.inj h).symm
  | null | bool | int | real | text | bytes | path | foreign => exact .inl (Except.ok.inj h).symm
  | list | tuple =>
    simp only [mergeAt, Value.items?] at h
    split at h
    · cases h
    · exact .inl (Except.ok.inj h).symm

theorem mergeEntries_cons_eq_ok_iff : mergeEntries clash root place ((k, v) :: es) = .ok root' ↔
    root.clashesAt place k = false ∧ ∃ between,
      mergeAt clash root (place ++ [.entry k]) v = .ok between ∧
        mergeEntries clash between place es = .ok root' := by
  rw [mergeEntries]
  cases root.clashesAt place k with
  | true => simp [throw, throwThe, MonadExceptOf.throw, bind, Except.bind]
  | false =>
    simp only [Bool.false_eq_true, if_false, true_and]
    exact bind_eq_ok_iff

/-! ## What is spared -/

/-- What a change at or below the entry `k` of a table at `q` leaves alone: the table is still one,
    and its entries under other texts are the same. -/
def Spared (q : Place) (k : Key) (root root' : Value) : Prop :=
  ∀ es, root.at? q = some (.table es) → ∃ es', root'.at? q = some (.table es') ∧
    ∀ n, k ≠ .text n → Entries.get? es' (.text n) = Entries.get? es (.text n)

namespace Spared

theorem refl : Spared q k root root := fun es h => ⟨es, h, fun _ _ => rfl⟩

theorem trans (h : Spared q k root root') (h' : Spared q k root' root'') :
    Spared q k root root'' := by
  intro es hes
  obtain ⟨es', hes', heq⟩ := h es hes
  obtain ⟨es'', hes'', heq'⟩ := h' es' hes'
  exact ⟨es'', hes'', fun n hn => (heq' n hn).trans (heq n hn)⟩

theorem putAt : Spared q k root (root.putAt (q ++ .entry k :: r) w) := by
  intro es hes
  refine ⟨_, by rw [Value.at?_putAt_append hes, Value.putAt_entry], fun n hn => ?_⟩
  exact Entries.get?_put_of_ne hn

theorem copyReferenced : Spared q k root (root.copyReferenced (q ++ .entry k :: r)) := by
  unfold Value.copyReferenced
  split
  · split
    · split
      · exact putAt
      · exact refl
    · exact refl
  · exact refl

end Spared

mutual

/-- Merging a value below an entry spares the others. -/
theorem spared_of_mergeAt (v : Value) {root root' : Value} {r : Place}
    (h : mergeAt clash root (q ++ .entry k :: r) v = .ok root') : Spared q k root root' := by
  rcases mergeAt_inv h with rfl | ⟨es, fs, rfl, -, hmerge⟩
  · exact Spared.copyReferenced.trans .putAt
  · exact Spared.copyReferenced.trans (spared_of_mergeEntries es hmerge)

theorem spared_of_mergeEntries (fs : Entries) {root root' : Value} {r : Place}
    (h : mergeEntries clash root (q ++ .entry k :: r) fs = .ok root') :
    Spared q k root root' := by
  match fs with
  | [] =>
    obtain rfl : root = root' := by simpa [mergeEntries] using h
    exact .refl
  | (l, v) :: fs =>
    obtain ⟨-, between, hfirst, hrest⟩ := mergeEntries_cons_eq_ok_iff.mp h
    rw [List.append_assoc, List.cons_append] at hfirst
    exact (spared_of_mergeAt v hfirst).trans (spared_of_mergeEntries fs hrest)

end

/-! ## What is merged -/

/-- What stands where a value was merged: a table for a table, and any other value itself. -/
def Stands (v w : Value) : Prop :=
  match v with
  | .table _ => ∃ es, w = .table es
  | v => w = v

namespace Stands

theorem refl : Stands v v := by
  cases v with
  | table es => exact ⟨es, rfl⟩
  | null | bool | int | real | text | bytes | path | list | tuple | foreign => rfl

theorem eq_of_isSingle (h : Stands v w) (hv : v.isSingle = true) : w = v := by
  cases v with
  | table es => cases hv
  | null | bool | int | real | text | bytes | path | list | tuple | foreign => exact h

theorem isContainer (h : Stands v w) (hv : v.isContainer = true) : w.isContainer = true := by
  cases v with
  | table es =>
    obtain ⟨fs, rfl⟩ := h
    rfl
  | null | bool | int | real | text | bytes | path | list | tuple | foreign =>
    obtain rfl : w = _ := h
    exact hv

end Stands

theorem at?_table_of_mergeEntries {fs : Entries} (hes : root.at? q = some (.table es))
    (h : mergeEntries clash root q fs = .ok root') : ∃ es', root'.at? q = some (.table es') := by
  induction fs generalizing root es with
  | nil =>
    obtain rfl : root = root' := by simpa [mergeEntries] using h
    exact ⟨es, hes⟩
  | cons e fs ih =>
    obtain ⟨-, between, hfirst, hrest⟩ := mergeEntries_cons_eq_ok_iff.mp h
    obtain ⟨es', hes', -⟩ := spared_of_mergeAt e.2 hfirst es hes
    exact ih hes' hrest

/-- A value that is merged into an entry of a table stands there, and the other entries stay. -/
theorem entry_of_mergeAt (hes : root.at? q = some (.table es))
    (h : mergeAt clash root (q ++ [.entry (.text n)]) v = .ok root') :
    ∃ es', root'.at? q = some (.table es') ∧
      (∃ w, Entries.get? es' (.text n) = some w ∧ Stands v w) ∧
      ∀ m, m ≠ n → Entries.get? es' (.text m) = Entries.get? es (.text m) := by
  obtain ⟨es', hes', hothers⟩ := spared_of_mergeAt v h es hes
  have hentry : Entries.get? es' (.text n) = root'.at? (q ++ [.entry (.text n)]) := by
    rw [Value.at?_append, hes']
    simp [Value.at?, Value.child?]
  refine ⟨es', hes', ?_, fun m hm => hothers m fun hk => hm (Key.text.inj hk).symm⟩
  rw [hentry]
  rcases mergeAt_inv h with rfl | ⟨fs, gs, rfl, hgs, hmerge⟩
  · obtain ⟨cs, hcs, -⟩ := Spared.copyReferenced (r := []) (k := .text n) es hes
    refine ⟨v, ?_, .refl⟩
    rw [Value.at?_append, Value.at?_putAt_append hcs]
    simp [Value.putAt_entry, Value.at?, Value.child?]
  · obtain ⟨hs, hhs⟩ := at?_table_of_mergeEntries hgs hmerge
    exact ⟨_, hhs, hs, rfl⟩

/-- Of the entries of a table into which others were merged, one that was given stands there, and
    the other ones stay. -/
theorem entries_of_mergeEntries (hK : (K.map Prod.fst).Nodup)
    (hes : root.at? q = some (.table es))
    (h : mergeEntries clash root q (K.map fun e => (.text e.1, e.2)) = .ok root') :
    ∃ es', root'.at? q = some (.table es') ∧
      (∀ e ∈ K, ∃ w, Entries.get? es' (.text e.1) = some w ∧ Stands e.2 w) ∧
      ∀ n, n ∉ K.map Prod.fst → Entries.get? es' (.text n) = Entries.get? es (.text n) := by
  induction K generalizing root es with
  | nil =>
    obtain rfl : root = root' := by simpa [mergeEntries] using h
    exact ⟨es, hes, nofun, fun n _ => rfl⟩
  | cons e K ih =>
    obtain ⟨hfresh, hK⟩ := List.nodup_cons.mp hK
    obtain ⟨-, between, hfirst, hrest⟩ := mergeEntries_cons_eq_ok_iff.mp h
    obtain ⟨mid, hmid, ⟨w, hw, hstands⟩, hothers⟩ := entry_of_mergeAt hes hfirst
    obtain ⟨es', hes', hgiven, hkept⟩ := ih hK hmid hrest
    refine ⟨es', hes', List.forall_mem_cons.mpr ⟨⟨w, ?_, hstands⟩, hgiven⟩, fun n hn => ?_⟩
    · exact (hkept e.1 hfresh).trans hw
    · rw [List.map_cons, List.mem_cons, not_or] at hn
      exact (hkept n hn.2).trans (hothers n hn.1)

end FlipSat
