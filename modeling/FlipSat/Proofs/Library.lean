import FlipSat.Formula.File
import FlipSat.Settings.Basic

/-
  FlipSat: what is relied on of a library of settings.
  `LawfulLibrary` says what documents hold after they were made, changed at a key or merged, and
  what is read of them, as far as single values in sections go. Nothing is said of references: a
  text that has the start of one can stand for anything, and reading it can raise any fault.
  `FileLoader` says what becomes of files.
-/
namespace FlipSat

/-! ## Values in sections -/

/-- Does a text have the start of a reference? -/
def opensReference : List Char → Bool
  | '$' :: '\x7b' :: _ => true
  | _ :: s => opensReference s
  | [] => false

/-- A single value that stands for itself: no reference, and not the mark of a value to come. -/
def Value.isSingle : Value → Bool
  | .null | .bool _ | .int _ | .real _ | .bytes _ | .path _ => true
  | .text s => s != "???" && !opensReference s.toList
  | .list _ | .tuple _ | .table _ | .foreign => false

theorem Value.isContainer_of_isSingle {v : Value} (h : v.isSingle = true) :
    v.isContainer = false := by
  cases v <;> first | rfl | cases h

/-- The characters of plain names. -/
def nameChars : List Char := "abcdefghijklmnopqrstuvwxyz_".toList

/-- A name of small letters and underscores. -/
def IsPlainName (name : String) : Prop := name ≠ "" ∧ ∀ c ∈ name.toList, c ∈ nameChars

instance : DecidablePred IsPlainName := fun name =>
  @instDecidableAnd _ _ _ (List.decidableBAll (· ∈ nameChars) name.toList)

/-- The table of sections, each with its entries. -/
def Value.ofSections (sections : List (String × List (String × Value))) : Value :=
  .table (sections.map fun s => (.text s.1, .table (s.2.map fun e => (.text e.1, e.2))))

/-- The entries of a section. -/
def Value.section? (root : Value) (a : String) : Option Entries :=
  match root with
  | .table es =>
    match Entries.get? es (.text a) with
    | some (.table fs) => some fs
    | _ => none
  | _ => none

/-- The value at an entry of a section. -/
def Value.setting? (root : Value) (a n : String) : Option Value :=
  (root.section? a).bind (Entries.get? · (.text n))

theorem Value.setting?_eq_some_iff {root v : Value} {a n : String} : root.setting? a n = some v ↔
    ∃ es, root.section? a = some es ∧ Entries.get? es (.text n) = some v := Option.bind_eq_some_iff

/-- What stands in sections with single values is one. -/
theorem Value.isSingle_of_setting? {sections : List (String × List (String × Value))} {a n : String}
    {v : Value} (hsections : ∀ s ∈ sections, ∀ e ∈ s.2, e.2.isSingle = true)
    (h : (Value.ofSections sections).setting? a n = some v) : v.isSingle = true := by
  obtain ⟨es, hes, hget⟩ := setting?_eq_some_iff.mp h
  simp only [section?, ofSections, Entries.get?] at hes hget
  obtain ⟨e, he, rfl⟩ := Option.map_eq_some_iff.mp hget
  split at hes
  · next fs hfs =>
    obtain rfl := Option.some.inj hes
    obtain ⟨f, hf, hfst⟩ := Option.map_eq_some_iff.mp hfs
    obtain ⟨s, hs, rfl⟩ := List.mem_map.mp (List.mem_of_find?_eq_some hf)
    obtain rfl := Value.table.inj hfst
    obtain ⟨g, hg, rfl⟩ := List.mem_map.mp (List.mem_of_find?_eq_some he)
    exact hsections s hs g hg
  · cases hes

/-! ## Laws -/

section Laws

variable {γ : Type} [SettingsLibrary γ]

/-- The document holds a value, in which references are texts. -/
def Holds (d : γ) (root : Value) : Prop := SettingsLibrary.toContainer d false = .ok root

/-- What is relied on of a library, whose documents have no types and can be written to. -/
class LawfulLibrary (γ : Type) [SettingsLibrary γ] : Prop where
  /-- A document that is made of sections with single values holds them. -/
  create_sections : ∀ sections : List (String × List (String × Value)),
    (sections.map Prod.fst).Nodup →
    (∀ s ∈ sections, (s.2.map Prod.fst).Nodup ∧ ∀ e ∈ s.2, e.2.isSingle = true) →
    ∃ d : γ, SettingsLibrary.create (.ofSections sections) = .ok d ∧
      Holds d (.ofSections sections)
  /-- A single value in a section is read as it stands. -/
  select_single : ∀ (d : γ) (root v : Value) (a n : String), Holds d root → IsPlainName a →
    IsPlainName n → root.setting? a n = some v → v.isSingle = true →
    SettingsLibrary.select d (a ++ "." ++ n) = .ok v
  /-- A table or a list in a section is read as one. -/
  select_container : ∀ (d : γ) (root v : Value) (a n : String), Holds d root → IsPlainName a →
    IsPlainName n → root.setting? a n = some v → v.isContainer = true →
    ∃ w, SettingsLibrary.select d (a ++ "." ++ n) = .ok w ∧ w.isContainer = true
  /-- An entry that a section does not have is read as null. -/
  select_absent : ∀ (d : γ) (root : Value) (a n : String) (es : Entries), Holds d root →
    IsPlainName a → IsPlainName n → root.section? a = some es → Entries.get? es (.text n) = none →
    SettingsLibrary.select d (a ++ "." ++ n) = .ok .null
  /-- A single value that is put at the key of another one takes its place, and nothing else
      changes. -/
  update_single : ∀ (d : γ) (root old v : Value) (a n : String), Holds d root → IsPlainName a →
    IsPlainName n → root.setting? a n = some old → old.isSingle = true → v.isSingle = true →
    ∃ d' root', SettingsLibrary.update d (a ++ "." ++ n) v = (d', none) ∧ Holds d' root' ∧
      ∀ b m, root'.setting? b m = if b = a ∧ m = n then some v else root.setting? b m
  /-- Single values with plain names can be merged into a section. -/
  merge_singles : ∀ (d : γ) (root : Value) (a : String) (es : Entries) (K : List (String × Value)),
    Holds d root → root.section? a = some es → (∀ e ∈ K, IsPlainName e.1 ∧ e.2.isSingle = true) →
    ∃ m, SettingsLibrary.mergeValue d (.ofSections [(a, K)]) = .ok m
  /-- A list of single values is not merged into a section. The fault is in none of the families. -/
  merge_list_section : ∀ (d : γ) (root : Value) (a : String) (es : Entries) (items : List Value),
    Holds d root → root.section? a = some es → (∀ v ∈ items, v.isSingle = true) →
    ∃ r, SettingsLibrary.mergeValue d (.table [(.text a, .list items)]) = .error r ∧
      r.families = []
  /-- What is merged into a section stands there: single values as they are, and a table or a list
      for a table or a list. A value of a sort that cannot be kept is not merged. -/
  merge_given : ∀ (d m : γ) (a n : String) (v : Value) (K : List (String × Value)),
    (K.map Prod.fst).Nodup → SettingsLibrary.mergeValue d (.ofSections [(a, K)]) = .ok m →
    (n, v) ∈ K → v ≠ .foreign ∧ ∃ root w, Holds m root ∧ root.setting? a n = some w ∧
      (v.isSingle = true → w = v) ∧ (v.isContainer = true → w.isContainer = true)
  /-- Other entries of this section and of others stay as they are, if they are single values or not
      there. -/
  merge_kept : ∀ (d m : γ) (root : Value) (a b n : String) (es : Entries)
    (K : List (String × Value)), (K.map Prod.fst).Nodup → Holds d root →
    root.section? b = some es → (∀ w, Entries.get? es (.text n) = some w → w.isSingle = true) →
    (b = a → n ∉ K.map Prod.fst) → SettingsLibrary.mergeValue d (.ofSections [(a, K)]) = .ok m →
    ∃ root' es', Holds m root' ∧ root'.section? b = some es' ∧
      Entries.get? es' (.text n) = Entries.get? es (.text n)

/-- The bytes have a text at their front; its line breaks are plain ones. -/
def BeginsWith (bytes : ByteArray) (text : String) : Prop :=
  ∃ n s, Text.ofUtf8 (bytes.extract 0 n) = .ok s ∧
    text = String.ofList (Text.foldNewlines s.toList)

/-- What is relied on of reading files; `parse` is what becomes of a YAML text. The message of a
    fault can name the file besides. -/
structure FileLoader (γ : Type) [SettingsLibrary γ] (parse : String → Except Raised Value) :
    Prop where
  /-- A file that cannot be read is a fault of the system, or of the value of its path. -/
  unreadable : ∀ (tree : FileTree) (path : String) (e : FileFault), tree.read path = .error e →
    ∃ r, (SettingsLibrary.load tree path : Except Raised γ) = .error r ∧
      r.isAmong [.system, .value] = true
  /-- Bytes that are no text are a fault of their value, unless the text in front of them is not
      well formed. -/
  undecodable : ∀ (tree : FileTree) (path : String) (bytes : ByteArray) (e : Text.Utf8Fault),
    tree.read path = .ok bytes → Text.ofUtf8 bytes = .error e →
    ∃ r, (SettingsLibrary.load tree path : Except Raised γ) = .error r ∧
      (r.isAmong [.value] = true ∨
        ∃ text q, BeginsWith bytes text ∧ parse text = .error q ∧ r.families = q.families)
  /-- A text that is not well formed is a fault of its own. -/
  illFormed : ∀ (tree : FileTree) (path text : String) (r : Raised),
    readText tree path = .ok text → parse text = .error r →
    ∃ q, (SettingsLibrary.load tree path : Except Raised γ) = .error q ∧ q.families = r.families
  /-- Of a table a document is made. -/
  table : ∀ (tree : FileTree) (path text : String) (es : Entries), readText tree path = .ok text →
    parse text = .ok (.table es) →
    (SettingsLibrary.load tree path : Except Raised γ) = SettingsLibrary.create (.table es)
  /-- Of a list a document is made. -/
  list : ∀ (tree : FileTree) (path text : String) (items : List Value),
    readText tree path = .ok text → parse text = .ok (.list items) →
    (SettingsLibrary.load tree path : Except Raised γ) = SettingsLibrary.create (.list items)
  /-- A single value that is neither null nor a text is none that a file can hold. -/
  single : ∀ (tree : FileTree) (path text : String) (v : Value), readText tree path = .ok text →
    parse text = .ok v → v.isSingle = true → v ≠ .null → (∀ t, v ≠ .text t) →
    ∃ r, (SettingsLibrary.load tree path : Except Raised γ) = .error r ∧
      r.isAmong [.system] = true
  /-- Single values can be kept in a list. -/
  create_list : ∀ items : List Value, (∀ v ∈ items, v.isSingle = true) →
    ∃ d : γ, SettingsLibrary.create (.list items) = .ok d ∧ Holds d (.list items)
  /-- A list is not merged into a table. The fault is in none of the families. -/
  merge_list : ∀ (d e : γ) (es : Entries) (items : List Value), Holds d (.table es) →
    Holds e (.list items) → ∃ r, SettingsLibrary.merge d e = .error r ∧ r.families = []
  /-- It is the same whether a table is merged or the document that is made of it. -/
  merge_created : ∀ (d : γ) (es : Entries),
    SettingsLibrary.create (.table es) >>= SettingsLibrary.merge d =
      SettingsLibrary.mergeValue d (.table es)

end Laws

/-! ## Reading -/

namespace Settings

variable {γ : Type} [SettingsLibrary γ] {d : γ} {root v default : Value} {a n key : String}
  {es : Entries}

theorem read_of_select (h : SettingsLibrary.select d key = .ok v) (default : Value) :
    read d key default = .ok (if v.isNull then default else v) := by
  unfold read
  rw [h]
  cases v <;> rfl

variable [LawfulLibrary γ]

theorem read_single (hd : Holds d root) (ha : IsPlainName a) (hn : IsPlainName n)
    (hv : root.setting? a n = some v) (hsingle : v.isSingle = true) (default : Value) :
    read d (a ++ "." ++ n) default = .ok (if v.isNull then default else v) :=
  read_of_select (LawfulLibrary.select_single d root v a n hd ha hn hv hsingle) default

theorem read_absent (hd : Holds d root) (ha : IsPlainName a) (hn : IsPlainName n)
    (hes : root.section? a = some es) (hnone : Entries.get? es (.text n) = none)
    (default : Value) : read d (a ++ "." ++ n) default = .ok default :=
  read_of_select (LawfulLibrary.select_absent d root a n es hd ha hn hes hnone) default

theorem read_container (hd : Holds d root) (ha : IsPlainName a) (hn : IsPlainName n)
    (hv : root.setting? a n = some v) (hcontainer : v.isContainer = true) (default : Value) :
    ∃ w, read d (a ++ "." ++ n) default = .ok w ∧ w.isContainer = true := by
  obtain ⟨w, hw, hwc⟩ := LawfulLibrary.select_container d root v a n hd ha hn hv hcontainer
  refine ⟨w, ?_, hwc⟩
  rw [read_of_select hw]
  cases w <;> first | rfl | cases hwc

/-- What is read of an entry that is a single value or not there. -/
theorem read_plain (hd : Holds d root) (ha : IsPlainName a) (hn : IsPlainName n)
    (hes : root.section? a = some es)
    (hsingle : ∀ v, Entries.get? es (.text n) = some v → v.isSingle = true) (default : Value) :
    read d (a ++ "." ++ n) default =
      .ok (((Entries.get? es (.text n)).filter (!·.isNull)).getD default) := by
  cases hget : Entries.get? es (.text n) with
  | none => exact read_absent hd ha hn hes hget default
  | some v =>
    have hv := Value.setting?_eq_some_iff.mpr ⟨es, hes, hget⟩
    rw [read_single hd ha hn hv (hsingle v hget)]
    cases v <;> rfl

/-- Such an entry is read as before after others were merged. -/
theorem read_merge_of_not_mem {m : γ} {b : String} {K : List (String × Value)}
    (hK : (K.map Prod.fst).Nodup)
    (hm : SettingsLibrary.mergeValue d (.ofSections [(b, K)]) = .ok m) (hd : Holds d root)
    (ha : IsPlainName a) (hn : IsPlainName n) (hes : root.section? a = some es)
    (hsingle : ∀ v, Entries.get? es (.text n) = some v → v.isSingle = true)
    (hout : a = b → n ∉ K.map Prod.fst) (default : Value) :
    read m (a ++ "." ++ n) default = read d (a ++ "." ++ n) default := by
  obtain ⟨root', es', hroot', hes', hget⟩ :=
    LawfulLibrary.merge_kept d m root b a n es K hK hd hes hsingle hout hm
  rw [read_plain hroot' ha hn hes' (hget ▸ hsingle), read_plain hd ha hn hes hsingle, hget]

end Settings

end FlipSat
