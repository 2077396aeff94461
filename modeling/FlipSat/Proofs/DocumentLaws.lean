import FlipSat.Proofs.LineBreaks
import FlipSat.Proofs.Merging

/-
  FlipSat: documents that are plain values keep the laws of a library of settings.
  A key of two names leads to the entry of a section (`select_section`); a single value that is put
  there replaces the one that stands there (`setKey_of_section`), and a section that is merged is
  merged entry by entry (`section_of_mergeValue`).
-/
namespace FlipSat

variable {d m : Document} {root old v : Value} {a b n : String} {es : Entries}
  {K : List (String × Value)} {place : Place}

/-! ## Reading -/

namespace Document

theorem not_bracket_of_mem_key {c : Char} (ha : IsPlainName a) (hn : IsPlainName n)
    (h : c ∈ (a ++ "." ++ n).toList) : c ≠ '[' ∧ c ≠ ']' := by
  have hc : c ∈ a.toList ∨ c = '.' ∨ c ∈ n.toList := by simpa using h
  rcases hc with hc | rfl | hc
  · obtain ⟨-, -, -, hopen, hclose, -⟩ := not_special_of_mem_nameChars (ha.2 c hc)
    exact ⟨hopen, hclose⟩
  · decide
  · obtain ⟨-, -, -, hopen, hclose, -⟩ := not_special_of_mem_nameChars (hn.2 c hc)
    exact ⟨hopen, hclose⟩

theorem hasBrackets_names (ha : IsPlainName a) (hn : IsPlainName n) :
    hasBrackets (a ++ "." ++ n) = false := by
  unfold hasBrackets
  refine List.any_eq_false.mpr fun c hc => ?_
  obtain ⟨hopen, hclose⟩ := not_bracket_of_mem_key ha hn hc
  simp [hopen, hclose]

theorem keyParts?_names (ha : IsPlainName a) (hn : IsPlainName n) :
    keyParts? (a ++ "." ++ n) = some [a, n] := by
  obtain ⟨c, s, hs⟩ := List.exists_cons_of_ne_nil (show a.toList ≠ [] by simpa using ha.1)
  have hdot : c ≠ '.' :=
    (not_special_of_mem_nameChars (ha.2 c (by rw [hs]; exact List.mem_cons_self))).2.2.1
  have hname : a = String.singleton c ++ String.ofList s := by
    rw [← String.toList_inj, hs]
    simp
  have hkey : (a ++ "." ++ n).toList = c :: (s ++ '.' :: n.toList) := by simp [hs]
  have hparts : dottedParts (String.singleton c ++ (String.ofList s ++ ("." ++ n))) = [a, n] := by
    rw [← String.append_assoc, ← hname, ← String.append_assoc, dottedParts_names ha hn]
  unfold keyParts?
  rw [hkey]
  simp [hdot, hparts]

/-- What is read at the key of a section, if no reference stands there. -/
theorem select_section (ha : IsPlainName a) (hn : IsPlainName n) (hes : d.root.section? a = some es)
    (hplain : ∀ v, Entries.get? es (.text n) = some v → v.isReference = false) :
    d.select (a ++ "." ++ n) = .ok ((Entries.get? es (.text n)).getD .null) := by
  unfold select place
  rw [hasBrackets_names ha hn, keyParts?_names ha hn]
  dsimp only
  rw [find_section ha hn hes hplain]
  rcases Option.eq_none_or_eq_some (Entries.get? es (.text n)) with hget | ⟨v, hget⟩
  · simp [hget]
  · simp [hget, Value.at?_entry hes]

theorem select_of_setting? (ha : IsPlainName a) (hn : IsPlainName n)
    (hv : d.root.setting? a n = some v) (hplain : v.isReference = false) :
    d.select (a ++ "." ++ n) = .ok v := by
  obtain ⟨es, hes, hget⟩ := Value.setting?_eq_some_iff.mp hv
  have hentry : ∀ w, Entries.get? es (.text n) = some w → w.isReference = false := by
    intro w hw
    obtain rfl : v = w := Option.some.inj (hget.symm.trans hw)
    exact hplain
  rw [select_section ha hn hes hentry, hget]
  rfl

end Document

/-! ## Setting a key -/

/-- A single value at the key of a single value of a section takes its place. -/
theorem Value.setKey_of_section (ha : IsPlainName a) (hn : IsPlainName n)
    (hes : root.section? a = some es) (hold : Entries.get? es (.text n) = some old)
    (hsingle : old.isSingle = true) (hv : v.isSingle = true) : root.setKey (a ++ "." ++ n) v =
      .ok (root.putAt [.entry (.text a), .entry (.text n)] v) := by
  have hsection := at?_section.mpr hes
  have hat := (at?_entry (n := n) hes).trans hold
  obtain ⟨fs, rfl, -⟩ := section?_eq_some_iff.mp hes
  have henter : (table fs).enter [.entry (.text a)] = (table fs, [.entry (.text a)]) := by
    unfold Value.enter
    rw [look_of_at? hsection rfl]
    simp only [hsection, Option.map_some, isContainer, Option.getD_some, if_true]
  have hopen : openWay (table fs) [] [a] = .ok (table fs, [.entry (.text a)]) := by
    simp only [openWay, Value.stepFrom, Value.at?, Entries.keyOf_of_isWord ha.isWord, bind,
      Except.bind, List.nil_append, henter, Value.isTupleAt, Bool.false_and, Bool.false_eq_true,
      if_false]
  have hstep : (table fs).stepFrom [.entry (.text a)] n .badNumber =
      .ok (.entry (.text n)) := by
    simp only [Value.stepFrom, hsection, Entries.keyOf_of_isWord hn.isWord]
  have htuple : (table fs).isTupleAt [.entry (.text a)] = false := by
    simp only [Value.isTupleAt, hsection]
  have htuple' : (table fs).isTupleAt [.entry (.text a), .entry (.text n)] = false := by
    unfold Value.isTupleAt
    rw [hat]
    cases old <;> first | rfl | cases hsingle
  have hdrop : [a, n].dropLast = [a] := rfl
  have hlast : [a, n].getLast?.getD "" = n := rfl
  unfold Value.setKey
  simp only [dottedParts_names ha hn, hdrop, hlast, hopen, hstep, bind, Except.bind,
    shapeFault?_of_isSingle hv, List.cons_append, List.nil_append, htuple, htuple', Bool.or_self,
    Bool.false_eq_true, if_false, hat]
  cases v with
  | table | list | tuple => cases hv
  | null | bool | int | real | text | bytes | path | foreign =>
    cases old with
    | table | list | tuple => cases hsingle
    | null | bool | int | real | text | bytes | path | foreign => rfl

/-- The entries of sections after one was put in. -/
theorem Value.setting?_putAt (hes : root.section? a = some es) {m : String} :
    (root.putAt [.entry (.text a), .entry (.text n)] v).setting? b m =
      if b = a ∧ m = n then some v else root.setting? b m := by
  obtain ⟨fs, rfl, hfs⟩ := section?_eq_some_iff.mp hes
  have hput : (table fs).putAt [.entry (.text a), .entry (.text n)] v =
      table (Entries.put fs (.text a) (table (Entries.put es (.text n) v))) := by
    rw [putAt_entry, hfs, Option.getD_some, putAt_entry, putAt_nil]
  rw [hput]
  unfold setting? section?
  dsimp only
  by_cases hb : b = a
  · subst hb
    rw [Entries.get?_put_text, hfs]
    by_cases hm : m = n
    · subst hm
      simp
    · simp [hm, Entries.get?_put_of_ne (k := .text n) fun h => hm (Key.text.inj h).symm]
  · rw [Entries.get?_put_of_ne fun h => hb (Key.text.inj h).symm]
    simp [hb]

/-! ## Making a document -/

theorem Entries.clashes_text (h : ∀ e ∈ es, ∃ s, e.1 = .text s) :
    Entries.clashes es (.text n) = false := by
  unfold clashes
  rw [Bool.and_eq_false_iff]
  refine .inr (List.any_eq_false.mpr fun e he => ?_)
  obtain ⟨s, hs⟩ := h e he
  simp [hs, Key.name?]

theorem shapeFaultOfEntries?_texts (h : ∀ e ∈ es, (∃ s, e.1 = .text s) ∧ e.2.shapeFault? = none) :
    shapeFaultOfEntries? es = none := by
  induction es with
  | nil => rfl
  | cons e es ih =>
    obtain ⟨k, v⟩ := e
    obtain ⟨⟨⟨s, rfl⟩, hv⟩, hes⟩ := List.forall_mem_cons.mp h
    have hclash : Entries.clashes es (.text s) = false :=
      Entries.clashes_text fun e he => (hes e he).1
    simp [shapeFaultOfEntries?, hclash, hv, ih hes]

/-- Sections with single values can be kept. -/
theorem Value.shapeFault?_ofSections {sections : List (String × List (String × Value))}
    (h : ∀ s ∈ sections, ∀ e ∈ s.2, e.2.isSingle = true) :
    (Value.ofSections sections).shapeFault? = none := by
  unfold ofSections shapeFault?
  refine shapeFaultOfEntries?_texts fun e he => ?_
  obtain ⟨s, hs, rfl⟩ := List.mem_map.mp he
  refine ⟨⟨s.1, rfl⟩, ?_⟩
  unfold shapeFault?
  refine shapeFaultOfEntries?_texts fun e he => ?_
  obtain ⟨f, hf, rfl⟩ := List.mem_map.mp he
  exact ⟨⟨f.1, rfl⟩, shapeFault?_of_isSingle (h s hs f hf)⟩

theorem shapeFaultOfItems?_singles {items : List Value} (h : ∀ v ∈ items, v.isSingle = true) :
    shapeFaultOfItems? items = none := by
  induction items with
  | nil => rfl
  | cons v items ih =>
    obtain ⟨hv, hitems⟩ := List.forall_mem_cons.mp h
    rw [shapeFaultOfItems?, Value.shapeFault?_of_isSingle hv, ih hitems]
    rfl

/-! ## Merging a section -/

theorem Entries.get?_map_of_mem {e : String × Value} (hK : (K.map Prod.fst).Nodup) (he : e ∈ K) :
    Entries.get? (K.map fun e => (.text e.1, e.2)) (.text e.1) = some e.2 := by
  induction K with
  | nil => cases he
  | cons f K ih =>
    obtain ⟨hfresh, hK⟩ := List.nodup_cons.mp hK
    rw [List.map_cons, get?_cons]
    rcases List.mem_cons.mp he with rfl | he
    · simp
    · have hne : f.1 ≠ e.1 := fun h => hfresh (h ▸ List.mem_map.mpr ⟨e, he, rfl⟩)
      simpa [hne] using ih hK he

theorem ne_foreign_of_shapeFault? (h : (Value.ofSections [(a, K)]).shapeFault? = none)
    (hv : (n, v) ∈ K) : v ≠ .foreign := by
  have hmem : ∀ {es : Entries}, shapeFaultOfEntries? es = none → ∀ e ∈ es,
      e.2.shapeFault? = none := by
    intro es
    induction es with
    | nil => exact nofun
    | cons e es ih =>
      intro hes
      obtain ⟨k, v⟩ := e
      rw [shapeFaultOfEntries?] at hes
      split at hes
      · cases hes
      · split at hes
        · cases hes
        · obtain ⟨hv, hes⟩ := Option.or_eq_none_iff.mp hes
          exact List.forall_mem_cons.mpr ⟨hv, ih hes⟩
  have hsection : (Value.table (K.map fun e => (.text e.1, e.2))).shapeFault? = none := by
    simp only [Value.ofSections, Value.shapeFault?] at h
    exact hmem h (.text a, _) List.mem_cons_self
  rw [Value.shapeFault?] at hsection
  have hkept := hmem hsection (.text n, v) (List.mem_map.mpr ⟨(n, v), hv, rfl⟩)
  rintro rfl
  cases hkept

namespace Document

theorem ofValue_table : ofValue (.table es) = match (Value.table es).shapeFault? with
    | some why => .error why
    | none => .ok ⟨.table es⟩ := rfl

/-- Entries are merged if they can be kept, into a document that is a table. -/
theorem mergeValue_table (h : d.mergeValue (.table es) = .ok m) :
    (Value.table es).shapeFault? = none ∧ (∃ fs, d.root = .table fs) ∧
      ∃ clash, mergeEntries clash d.root [] es = .ok m.root := by
  unfold mergeValue at h
  dsimp only at h
  rw [ofValue_table] at h
  cases hshape : (Value.table es).shapeFault? with
  | some why =>
    rw [hshape] at h
    cases h
  | none =>
    rw [hshape] at h
    simp only [bind, Except.bind, merge] at h
    split at h
    · next fs gs hd hgs =>
      cases hgs
      obtain ⟨root, hroot, rfl⟩ := map_eq_ok_iff.mp h
      exact ⟨rfl, ⟨fs, hd⟩, _, hroot⟩
    · cases h

theorem mergeValue_eq {fs : Entries} (hd : d.root = .table fs)
    (hshape : (Value.table es).shapeFault? = none) : d.mergeValue (.table es) =
      (mergeEntries clash d.root [] es).map Document.mk := by
  unfold mergeValue
  dsimp only
  rw [ofValue_table, hshape]
  simp only [bind, Except.bind, merge, hd]

/-- Of a section that was merged, the entries that were given stand there, and so do the others of
    the section that stood there before. -/
theorem section_of_mergeValue (hK : (K.map Prod.fst).Nodup)
    (h : d.mergeValue (.ofSections [(a, K)]) = .ok m) :
    ∃ es', m.root.section? a = some es' ∧
      (∀ e ∈ K, ∃ w, Entries.get? es' (.text e.1) = some w ∧ Stands e.2 w) ∧
      ∀ es, d.root.section? a = some es → ∀ n, n ∉ K.map Prod.fst →
        Entries.get? es' (.text n) = Entries.get? es (.text n) := by
  obtain ⟨-, ⟨fs, hfs⟩, clash, hmerge⟩ := mergeValue_table h
  obtain ⟨-, between, hfirst, hrest⟩ := mergeEntries_cons_eq_ok_iff.mp hmerge
  obtain rfl : between = m.root := by simpa [mergeEntries] using hrest
  have hsame : ∀ es, d.root.section? a = some es →
      (d.root.copyReferenced [.entry (.text a)]).at? [.entry (.text a)] = some (.table es) := by
    intro es hes
    have hat := Value.at?_section.mpr hes
    unfold Value.copyReferenced
    rw [hat]
    exact hat
  rw [List.nil_append, mergeAt] at hfirst
  split at hfirst
  · next gs hgs =>
    obtain ⟨es', hes', hgiven, hkept⟩ := entries_of_mergeEntries hK hgs hfirst
    refine ⟨es', Value.at?_section.mp hes', hgiven, fun es hes => ?_⟩
    obtain rfl : gs = es := by simpa using hgs.symm.trans (hsame es hes)
    exact hkept
  · cases hfirst
  · cases hfirst
  · next hno _ _ =>
    have hspared : Spared [] (.text a) d.root (d.root.copyReferenced [.entry (.text a)]) :=
      Spared.copyReferenced (q := []) (r := [])
    obtain ⟨cs, hcs, -⟩ := hspared fs (congrArg some hfs)
    have hroot := Except.ok.inj hfirst
    refine ⟨_, ?_, fun e he => ⟨e.2, Entries.get?_map_of_mem hK he, .refl⟩, fun es hes => ?_⟩
    · have hcopy : d.root.copyReferenced [.entry (.text a)] = .table cs := Option.some.inj hcs
      rw [← Value.at?_section, ← hroot]
      dsimp only
      rw [hcopy, Value.putAt_entry]
      simp [Value.at?, Value.child?]
    · exact absurd (hsame es hes) (hno es)

end Document

/-- Merging a section spares the others. -/
theorem Document.section_of_mergeValue_of_ne (hb : b ≠ a)
    (h : d.mergeValue (.ofSections [(a, K)]) = .ok m) (hes : d.root.section? b = some es) :
    m.root.section? b = some es := by
  obtain ⟨-, ⟨fs, hfs⟩, clash, hmerge⟩ := mergeValue_table h
  obtain ⟨-, between, hfirst, hrest⟩ := mergeEntries_cons_eq_ok_iff.mp hmerge
  obtain rfl : between = m.root := by simpa [mergeEntries] using hrest
  obtain ⟨gs, hgs, hothers⟩ := spared_of_mergeAt (q := []) (r := []) _ hfirst fs (congrArg some hfs)
  obtain ⟨_, hfs', hget⟩ := Value.section?_eq_some_iff.mp hes
  obtain rfl := Value.table.inj (hfs.symm.trans hfs')
  refine Value.section?_eq_some_iff.mpr ⟨gs, Option.some.inj hgs, ?_⟩
  rw [hothers b fun hk => hb (Key.text.inj hk).symm, hget]

theorem Value.clashesAt_of_isPlainName (hes : root.at? place = some (.table es))
    (hn : IsPlainName n) : root.clashesAt place (.text n) = false := by
  unfold clashesAt
  rw [hes]
  dsimp only
  rw [Bool.and_eq_false_iff, Entries.clashes, Bool.and_eq_false_iff]
  refine .inr (.inr (List.any_eq_false.mpr fun e _ => ?_))
  cases hk : e.1 with
  | text s => simp [Key.name?]
  | int m => simp [Key.name?, hn.isWord.key m]
  | null | real | bool | bytes | foreign => simp [Key.name?]

/-- Single values can be merged into any table. -/
theorem mergeEntries_singles (clash : Raised) (hes : root.at? place = some (.table es))
    (hK : ∀ e ∈ K, IsPlainName e.1 ∧ e.2.isSingle = true) :
    ∃ root', mergeEntries clash root place (K.map fun e => (.text e.1, e.2)) = .ok root' := by
  induction K generalizing root es with
  | nil => exact ⟨root, rfl⟩
  | cons e K ih =>
    obtain ⟨⟨hn, hsingle⟩, hK⟩ := List.forall_mem_cons.mp hK
    have hfirst : ∃ between, mergeAt clash root (place ++ [.entry (.text e.1)]) e.2 =
        .ok between := by
      cases hv : e.2 with
      | null | bool | int | real | text | bytes | path => exact ⟨_, rfl⟩
      | list | tuple | table | foreign =>
        rw [hv] at hsingle
        cases hsingle
    obtain ⟨between, hfirst⟩ := hfirst
    obtain ⟨mid, hmid, -⟩ := entry_of_mergeAt hes hfirst
    obtain ⟨root', hrest⟩ := ih hmid hK
    exact ⟨root', mergeEntries_cons_eq_ok_iff.mpr
      ⟨Value.clashesAt_of_isPlainName hes hn, between, hfirst, hrest⟩⟩

namespace Document

/-- Nothing clashes with a section that is there, and the section is no reference. -/
theorem at_section (hes : d.root.section? a = some es) :
    d.root.clashesAt [] (.text a) = false ∧
      d.root.copyReferenced [.entry (.text a)] = d.root := by
  have hat := Value.at?_section.mpr hes
  constructor
  · obtain ⟨gs, hgs, hget⟩ := Value.section?_eq_some_iff.mp hes
    unfold Value.clashesAt
    rw [hgs]
    simp [Value.at?, hget]
  · unfold Value.copyReferenced
    rw [hat]

theorem mergeValue_singles (hes : d.root.section? a = some es)
    (hK : ∀ e ∈ K, IsPlainName e.1 ∧ e.2.isSingle = true) :
    ∃ m, d.mergeValue (.ofSections [(a, K)]) = .ok m := by
  obtain ⟨fs, hd, -⟩ := Value.section?_eq_some_iff.mp hes
  have hshape : (Value.ofSections [(a, K)]).shapeFault? = none :=
    Value.shapeFault?_ofSections (by simpa using fun n v hv => (hK (n, v) hv).2)
  obtain ⟨hclash, hcopy⟩ := at_section hes
  have hat := Value.at?_section.mpr hes
  obtain ⟨root', hroot⟩ := mergeEntries_singles clash hat hK
  refine ⟨⟨root'⟩, (mergeValue_eq hd hshape).trans ?_⟩
  have hfirst : mergeAt clash d.root [.entry (.text a)]
      (.table (K.map fun e => (.text e.1, e.2))) = .ok root' := by
    rw [mergeAt, hcopy, hat]
    exact hroot
  rw [map_eq_ok_iff]
  exact ⟨root', mergeEntries_cons_eq_ok_iff.mpr ⟨hclash, root', hfirst, rfl⟩, rfl⟩

theorem mergeValue_list_section {items : List Value} (hes : d.root.section? a = some es)
    (hitems : ∀ v ∈ items, v.isSingle = true) :
    d.mergeValue (.table [(.text a, .list items)]) = .error clash := by
  obtain ⟨fs, hd, -⟩ := Value.section?_eq_some_iff.mp hes
  have hshape : (Value.table [(.text a, .list items)]).shapeFault? = none := by
    unfold Value.shapeFault?
    refine shapeFaultOfEntries?_texts (List.forall_mem_singleton.mpr ⟨⟨a, rfl⟩, ?_⟩)
    exact shapeFaultOfItems?_singles hitems
  obtain ⟨hclash, hcopy⟩ := at_section hes
  rw [mergeValue_eq hd hshape, mergeEntries, hclash]
  simp only [Bool.false_eq_true, if_false, List.nil_append, mergeAt, hcopy,
    Value.at?_section.mpr hes, Value.items?]
  rfl

end Document

/-! ## The laws -/

theorem holds_iff : Holds d root ↔ d.root = root := by
  show (Except.ok d.root : Except Raised Value) = .ok root ↔ _
  simp

instance : LawfulLibrary Document where
  create_sections := by
    intro sections _ hsections
    have hshape : (Value.ofSections sections).shapeFault? = none :=
      Value.shapeFault?_ofSections fun s hs => (hsections s hs).2
    refine ⟨⟨.ofSections sections⟩, ?_, rfl⟩
    exact Document.ofValue_table.trans (by rw [← Value.ofSections, hshape])
  select_single := by
    intro d root v a n hd ha hn hv hsingle
    obtain rfl := holds_iff.mp hd
    exact Document.select_of_setting? ha hn hv (Value.isReference_of_isSingle hsingle)
  select_container := by
    intro d root v a n hd ha hn hv hcontainer
    obtain rfl := holds_iff.mp hd
    refine ⟨v, Document.select_of_setting? ha hn hv ?_, hcontainer⟩
    cases v <;> first | rfl | cases hcontainer
  select_absent := by
    intro d root a n es hd ha hn hes hnone
    obtain rfl := holds_iff.mp hd
    exact (Document.select_section ha hn hes (by simp [hnone])).trans (by rw [hnone]; rfl)
  update_single := by
    intro d root old v a n hd ha hn hold hsingle hv
    obtain rfl := holds_iff.mp hd
    obtain ⟨es, hes, hget⟩ := Value.setting?_eq_some_iff.mp hold
    refine ⟨⟨d.root.putAt [.entry (.text a), .entry (.text n)] v⟩, _, ?_, rfl, fun b m =>
      Value.setting?_putAt hes⟩
    show d.update (a ++ "." ++ n) v = _
    unfold Document.update
    rw [Document.hasBrackets_names ha hn, Value.setKey_of_section ha hn hes hget hsingle hv]
    rfl
  merge_singles := by
    intro d root a es K hd hes hK
    obtain rfl := holds_iff.mp hd
    exact Document.mergeValue_singles hes hK
  merge_list_section := by
    intro d root a es items hd hes hitems
    obtain rfl := holds_iff.mp hd
    exact ⟨_, Document.mergeValue_list_section hes hitems, rfl⟩
  merge_given := by
    intro d m a n v K hK hm hv
    obtain ⟨es', hes', hgiven, -⟩ := Document.section_of_mergeValue hK hm
    obtain ⟨w, hw, hstands⟩ := hgiven (n, v) hv
    refine ⟨ne_foreign_of_shapeFault? (Document.mergeValue_table hm).1 hv, m.root, w, rfl,
      Value.setting?_eq_some_iff.mpr ⟨es', hes', hw⟩, hstands.eq_of_isSingle, hstands.isContainer⟩
  merge_kept := by
    intro d m root a b n es K hK hd hes _ hout hm
    obtain rfl := holds_iff.mp hd
    by_cases hb : b = a
    · subst hb
      obtain ⟨es', hes', -, hkept⟩ := Document.section_of_mergeValue hK hm
      exact ⟨m.root, es', rfl, hes', hkept es hes n (hout rfl)⟩
    · exact ⟨m.root, es, rfl, Document.section_of_mergeValue_of_ne hb hm hes, rfl⟩

/-! ## Files -/

theorem Document.ofFile_of_text {tree : FileTree} {path text : String}
    (h : readText tree path = .ok text) : Document.ofFile tree path = (do
      let v ← Yaml.read .settings text
      match v with
      | .table _ | .list _ | .null | .text _ => ofValue v
      | _ => .error .notDocument) := by
  obtain ⟨bytes, s, hread, hutf, rfl⟩ := readText_eq_ok_iff.mp h
  have htext : readFile tree path = .ok (String.ofList (Text.foldNewlines s.toList)) := by
    simp [readFile, hread, hutf, Except.mapError, bind, Except.bind, pure, Except.pure]
  unfold ofFile
  rw [htext]
  rfl

theorem Document.fileLoader : FileLoader Document (Yaml.read .settings) where
  unreadable := by
    intro tree path e hread
    have hload : ∀ r, readFile tree path = .error r → ofFile tree path = .error r := by
      intro r hr
      unfold ofFile
      rw [hr]
      rfl
    by_cases he : e = .holdsNul
    · refine ⟨⟨"ValueError", [.value], e.message⟩, hload _ ?_, rfl⟩
      simp only [readFile, hread, Except.mapError, bind, Except.bind, he, if_true]
    · refine ⟨⟨"OSError", [.system], e.message⟩, hload _ ?_, rfl⟩
      simp only [readFile, hread, Except.mapError, bind, Except.bind, he, if_false]
  undecodable := by
    intro tree path bytes e hread hutf
    refine ⟨.badEncoding, ?_, .inl rfl⟩
    show ofFile tree path = _
    unfold ofFile readFile
    simp only [hread, hutf, Except.mapError, bind, Except.bind]
  illFormed := by
    intro tree path text r hread hparse
    exact ⟨r, (ofFile_of_text hread).trans (by rw [hparse]; rfl), rfl⟩
  table := by
    intro tree path text es hread hparse
    exact (ofFile_of_text hread).trans (by rw [hparse]; rfl)
  list := by
    intro tree path text items hread hparse
    exact (ofFile_of_text hread).trans (by rw [hparse]; rfl)
  single := by
    intro tree path text v hread hparse hsingle hnull htext
    refine ⟨.notDocument, (ofFile_of_text hread).trans ?_, rfl⟩
    rw [hparse]
    cases v with
    | null => exact absurd rfl hnull
    | text t => exact absurd rfl (htext t)
    | list | tuple | table | foreign => cases hsingle
    | bool | int | real | bytes | path => rfl
  create_list := by
    intro items hitems
    refine ⟨⟨.list items⟩, ?_, rfl⟩
    show ofValue (.list items) = _
    unfold ofValue Value.shapeFault?
    dsimp only
    rw [shapeFaultOfItems?_singles hitems]
  merge_list := by
    intro d e es items hd he
    refine ⟨clash, ?_, rfl⟩
    show merge d e = _
    unfold merge
    rw [holds_iff.mp hd, holds_iff.mp he]
  merge_created := fun _ _ => rfl

end FlipSat
