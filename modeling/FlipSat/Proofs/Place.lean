import FlipSat.Document.Basic
import FlipSat.Proofs.Blank
import FlipSat.Proofs.Library

/-
  FlipSat: places inside a value: what stands there after something was put at one of them, and
  where a key leads.
  `at?_putAt_append` gives what stands above the place, `get?_put_text` and `get?_put_of_ne` the
  entries beside it. A key of two words leads to the entry of a section, unless a reference stands
  there (`find_section`).
-/
namespace FlipSat

/-! ## Entries -/

/-- A text is found by itself only. -/
@[simp] theorem Key.same_text (k : Key) (n : String) : k.same (.text n) = decide (k = .text n) := by
  cases k <;> simp [same, number?, beq_eq_decide]

theorem Key.text_same_of_ne {k : Key} {n : String} (h : k ≠ .text n) :
    (Key.text n).same k = false := by
  cases k with
  | text m => simpa [eq_comm] using h
  | null | int | real | bool | bytes | foreign => simp [same, number?]

namespace Entries

variable {es : Entries} {k : Key} {n : String} {v w : Value}

theorem get?_cons {e : Key × Value} : get? (e :: es) k =
    if e.1.same k then some e.2 else get? es k := by
  unfold get?
  rw [List.find?_cons]
  cases e.1.same k <;> rfl

/-- An entry that is there is replaced. -/
theorem get?_put_of_isSome (h : (get? es k).isSome) : get? (put es k v) k = some v := by
  induction es with
  | nil => cases h
  | cons e es ih =>
    cases he : e.1.same k with
    | true => simp [put, get?_cons, he]
    | false =>
      have hes : (get? es k).isSome := by simpa [get?_cons, he] using h
      simpa [put, get?_cons, he] using ih hes

@[simp] theorem get?_put_text : get? (put es (.text n) v) (.text n) = some v := by
  induction es with
  | nil => simp [put, get?_cons]
  | cons e es ih =>
    by_cases he : e.1 = .text n
    · simp [put, get?_cons, he]
    · simp [put, get?_cons, he, ih]

/-- Entries under other texts stay as they are. -/
theorem get?_put_of_ne (h : k ≠ .text n) : get? (put es k v) (.text n) = get? es (.text n) := by
  induction es with
  | nil => simp [put, get?, h]
  | cons e es ih =>
    by_cases he : e.1 = .text n
    · simp [put, get?_cons, he, Key.text_same_of_ne h]
    · cases hk : e.1.same k with
      | true => simp [put, get?_cons, he, hk]
      | false => simp [put, get?_cons, he, hk, ih]

end Entries

/-! ## Places -/

namespace Value

variable {root v w : Value} {q r : Place} {s : Step} {es : Entries} {k : Key}

theorem at?_append : v.at? (q ++ r) = (v.at? q).bind (·.at? r) := by
  induction q generalizing v with
  | nil => rfl
  | cons s q ih =>
    rw [List.cons_append, at?, at?]
    cases v.child? s with
    | none => rfl
    | some w => exact ih

@[simp] theorem putAt_nil : v.putAt [] w = w := by
  rw [putAt]

theorem putAt_entry : (table es).putAt (.entry k :: r) w =
    table (Entries.put es k (((Entries.get? es k).getD .null).putAt r w)) := by
  rw [putAt]

/-- Of a value that is there, only the way to the place changes. -/
theorem child?_putAt (h : root.child? s = some v) :
    (root.putAt (s :: r) w).child? s = some (v.putAt r w) := by
  cases root with
  | table es =>
    cases s with
    | entry k =>
      have hk : Entries.get? es k = some v := h
      rw [putAt_entry, hk]
      exact Entries.get?_put_of_isSome (by rw [hk]; rfl)
    | item i => cases h
  | list items =>
    cases s with
    | entry k => cases h
    | item i =>
      have hi : items[i]? = some v := h
      simp [putAt, child?, hi]
  | tuple items =>
    cases s with
    | entry k => cases h
    | item i =>
      have hi : items[i]? = some v := h
      simp [putAt, child?, hi]
  | null | bool | int | real | text | bytes | path | foreign => cases h

theorem at?_putAt_append (h : root.at? q = some v) :
    (root.putAt (q ++ r) w).at? q = some (v.putAt r w) := by
  induction q generalizing root with
  | nil =>
    obtain rfl : root = v := Option.some.inj h
    rfl
  | cons s q ih =>
    obtain ⟨u, hu, hv⟩ := Option.bind_eq_some_iff.mp h
    rw [List.cons_append, at?, child?_putAt hu]
    exact ih hv

end Value

/-! ## References -/

/-- Does a value refer to another one? -/
def Value.isReference : Value → Bool
  | .text s => match Reference.ofText s with
    | .toKey _ => true
    | _ => false
  | _ => false

theorem opened?_eq_none_iff {s : List Char} :
    Reference.opened? s = none ↔ opensReference s = false := by
  induction s using opensReference.induct with
  | case1 s => simp [Reference.opened?, opensReference]
  | case2 c s hno ih =>
    rw [Reference.opened?, opensReference, ih]
    · exact hno
    · exact hno
  | case3 => simp [Reference.opened?, opensReference]

/-- A single value refers to nothing. -/
theorem Value.ofText_of_isSingle {s : String} (h : (Value.text s).isSingle = true) :
    Reference.ofText s = .plain := by
  simp only [isSingle, Bool.and_eq_true, bne_iff_ne, ne_eq, Bool.not_eq_true'] at h
  unfold Reference.ofText
  simp only [opened?_eq_none_iff.mpr h.2, Reference.missingMark, beq_iff_eq, h.1, if_false]

theorem Value.isReference_of_isSingle {v : Value} (h : v.isSingle = true) :
    v.isReference = false := by
  cases v with
  | text s => simp only [isReference, ofText_of_isSingle h]
  | null | bool | int | real | bytes | path | list | tuple | table | foreign => rfl

theorem Value.shapeFault?_of_isSingle {v : Value} (h : v.isSingle = true) :
    v.shapeFault? = none := by
  cases v with
  | text s => simp only [shapeFault?, ofText_of_isSingle h]
  | null | bool | int | real | bytes | path => rfl
  | list | tuple | table | foreign => cases h

section Look

variable {root : Value} {place : Place} {v : Value}

/-- A look at a place where no reference stands ends there. -/
theorem look_of_at? (h : root.at? place = some v) (hv : v.isReference = false) :
    root.look place = .ok place := by
  unfold Value.look
  rw [lookThrough, h]
  cases v with
  | text s =>
    cases ht : Reference.ofText s with
    | toKey parts => simp [Value.isReference, ht] at hv
    | plain | malformed | unavailable => simp only [ht]
  | null | bool | int | real | bytes | path | list | tuple | table | foreign => rfl

end Look

/-! ## Names -/

/-- A name is neither the key of an integer nor an index. -/
structure IsWord (name : String) : Prop where
  key : ∀ n, Text.showInt n ≠ name
  index : Text.readInt? name.toList = none

section Names

variable {name : String} {c : Char} {s : List Char}

theorem Text.mem_showInt {n : Int} (h : c ∈ (showInt n).toList) : c = '-' ∨ c.isDigit := by
  cases n with
  | ofNat n =>
    have hc : c ∈ Nat.toDigits 10 n := by simpa [showInt] using h
    exact .inr (Nat.isDigit_of_mem_toDigits (by decide) (by decide) hc)
  | negSucc n =>
    have hc : c = '-' ∨ c ∈ Nat.toDigits 10 (n + 1) := by simpa [showInt] using h
    exact hc.imp_right (Nat.isDigit_of_mem_toDigits (by decide) (by decide))

theorem Text.digitRun?_cons (h : digitValue? c = none) : digitRun? (c :: s) = none := by
  unfold digitRun?
  split <;> simp_all

/-- A text without padding in it is no number if its first character is neither a sign nor a
    digit. -/
theorem Text.readInt?_cons (hpad : ∀ d ∈ c :: s, isNumeralPadding d = false) (hminus : c ≠ '-')
    (hplus : c ≠ '+') (hdigit : digitValue? c = none) : readInt? (c :: s) = none := by
  have hdrop : ∀ t : List Char, (∀ d ∈ t, isNumeralPadding d = false) →
      t.dropWhile isNumeralPadding = t := by
    intro t ht
    cases t with
    | nil => rfl
    | cons d t => rw [List.dropWhile_cons_of_neg (by simp [ht d List.mem_cons_self])]
  have htrim : trimNumeral (c :: s) = c :: s := by
    unfold trimNumeral
    rw [hdrop _ hpad, hdrop _ fun d hd => hpad d (List.mem_reverse.mp hd), List.reverse_reverse]
  have hsign : splitSign (c :: s) = (false, c :: s) := by
    unfold splitSign
    split
    · next h => exact absurd (List.cons.inj h).1 hminus
    · next h => exact absurd (List.cons.inj h).1 hplus
    · rfl
  unfold readInt?
  rw [htrim, hsign]
  simp [digitRun?_cons hdigit]

/-- Does the character mean nothing in a number or in a key? -/
def isOrdinary (c : Char) : Bool :=
  !(['-', '+', '.', '[', ']'].contains c) && !c.isDigit && !Text.isNumeralPadding c &&
    (Text.digitValue? c).isNone

theorem not_special_of_mem_nameChars {c : Char} (h : c ∈ nameChars) : c ≠ '-' ∧ c ≠ '+' ∧
    c ≠ '.' ∧ c ≠ '[' ∧ c ≠ ']' ∧ c.isDigit = false ∧ Text.isNumeralPadding c = false ∧
    Text.digitValue? c = none := by
  have hall : nameChars.all isOrdinary = true := by decide
  have hc := List.all_eq_true.mp hall c h
  simpa [isOrdinary, and_assoc] using hc

theorem IsPlainName.isWord (h : IsPlainName name) : IsWord name where
  key := by
    rintro n rfl
    obtain ⟨c, s, hs⟩ := List.exists_cons_of_ne_nil
      (show (Text.showInt n).toList ≠ [] by simpa using h.1)
    have hc : c ∈ (Text.showInt n).toList := by rw [hs]; exact List.mem_cons_self
    obtain ⟨hminus, -, -, -, -, hdigit, -⟩ := not_special_of_mem_nameChars (h.2 c hc)
    rcases Text.mem_showInt hc with hc | hc
    · exact hminus hc
    · rw [hdigit] at hc
      cases hc
  index := by
    obtain ⟨c, s, hs⟩ := List.exists_cons_of_ne_nil (show name.toList ≠ [] by simpa using h.1)
    have hall : ∀ d ∈ c :: s, d ∈ nameChars := fun d hd => h.2 d (by rw [hs]; exact hd)
    obtain ⟨hminus, hplus, -, -, -, -, -, hdigit⟩ :=
      not_special_of_mem_nameChars (hall c List.mem_cons_self)
    rw [hs]
    refine Text.readInt?_cons (fun d hd => ?_) hminus hplus hdigit
    exact (not_special_of_mem_nameChars (hall d hd)).2.2.2.2.2.2.1

theorem dottedParts_names {a n : String} (ha : IsPlainName a) (hn : IsPlainName n) :
    dottedParts (a ++ "." ++ n) = [a, n] := by
  have hpiece : ∀ {name : String}, IsPlainName name →
      name.toList.splitOnP (· == '.') = [name.toList] := by
    intro name h
    refine List.splitOnP_eq_singleton fun c hc => ?_
    exact beq_eq_false_iff_ne.mpr (not_special_of_mem_nameChars (h.2 c hc)).2.2.1
  have htext : (a ++ "." ++ n).toList = a.toList ++ '.' :: n.toList := by simp
  unfold dottedParts
  rw [Text.splitOn_eq, List.splitOn_eq_splitOnP, htext,
    List.splitOnP_append_cons _ _ (by decide), hpiece ha, hpiece hn]
  simp

end Names

theorem Entries.keyOf_of_isWord {es : Entries} {name : String} (h : IsWord name) :
    es.keyOf name = .text name := by
  unfold keyOf
  split
  · next e he =>
    have hname : e.1.name? = some name := by simpa using List.find?_some he
    cases hk : e.1 with
    | text s => simpa [hk, Key.name?] using hname
    | int n => exact absurd (by simpa [hk, Key.name?] using hname) (h.key n)
    | null | real | bool | bytes | foreign => simp [hk, Key.name?] at hname
  · rfl

/-! ## Sections -/

section Sections

variable {root v : Value} {a n : String} {es : Entries}

theorem Value.section?_eq_some_iff : root.section? a = some es ↔
    ∃ fs, root = .table fs ∧ Entries.get? fs (.text a) = some (.table es) := by
  unfold section?
  constructor
  · intro h
    split at h
    · next fs =>
      split at h
      · next gs hgs =>
        obtain rfl := Option.some.inj h
        exact ⟨fs, rfl, hgs⟩
      · cases h
    · cases h
  · rintro ⟨fs, rfl, hfs⟩
    simp only [hfs]

theorem Value.at?_section : root.at? [.entry (.text a)] = some (.table es) ↔
    root.section? a = some es := by
  rw [section?_eq_some_iff]
  cases root with
  | table fs => simp [at?, child?]
  | null | bool | int | real | text | bytes | path | list | tuple | foreign =>
    simp [at?, child?]

theorem Value.at?_entry (h : root.section? a = some es) :
    root.at? [.entry (.text a), .entry (.text n)] = Entries.get? es (.text n) := by
  have happ := at?_append (v := root) (q := [.entry (.text a)]) (r := [.entry (.text n)])
  rw [at?_section.mpr h, Option.bind_some] at happ
  exact happ.trans (by simp [at?, child?])

/-- A walk goes through a section to its entry, if that is there. -/
theorem find_section (ha : IsPlainName a) (hn : IsPlainName n) (hes : root.section? a = some es)
    (hplain : ∀ v, Entries.get? es (.text n) = some v → v.isReference = false) :
    root.find [a, n] = if (Entries.get? es (.text n)).isSome then
      .ok [.entry (.text a), .entry (.text n)] else .error .missing := by
  have hlook : root.look [.entry (.text a)] = .ok [.entry (.text a)] :=
    look_of_at? (Value.at?_section.mpr hes) rfl
  obtain ⟨fs, rfl, hfs⟩ := Value.section?_eq_some_iff.mp hes
  unfold Value.find
  simp only [walk, Value.at?, stepTo, Entries.keyOf_of_isWord ha.isWord, Value.child?, hfs,
    Option.isNone_some, Bool.false_eq_true, if_false, List.nil_append, hlook, Option.bind_some,
    Entries.keyOf_of_isWord hn.isWord, List.cons_append]
  rcases Option.eq_none_or_eq_some (Entries.get? es (.text n)) with hget | ⟨v, hget⟩
  · simp [hget]
  · have hat := (Value.at?_entry (n := n) hes).trans hget
    simp [hget, look_of_at? hat (hplain v hget)]

end Sections

end FlipSat
