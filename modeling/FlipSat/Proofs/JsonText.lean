import FlipSat.Proofs.JsonTokens

/-
  FlipSat: what is printed as JSON is read back.
  A text that is read as a tree wherever a value can stand (`Gives`) can be an item between
  brackets (`gives_list`) or stand behind a name (`gives_table`). So by recursion on a value, what
  it is written as is read as its tree, on one line (`read?_compact`) or on several
  (`read?_pretty`).
-/
namespace FlipSat.Json

variable {c : Char} {w v : List Char} {ts : List Token}

/-! ## Trees of texts -/

/-- A text that is read as a tree, wherever a value can stand. -/
def Gives (w : List Char) (t : Tree) : Prop :=
  ∃ ts, Reads w ts ∧ ∀ frames, ts.foldl Parse.step (.value frames) = .done frames t

/-- A text that is read as an entry of a table. -/
def GivesEntry (w : List Char) (e : String × Tree) : Prop :=
  ∃ ts, Reads w (.text e.1 :: .colon :: ts) ∧
    ∀ frames, ts.foldl Parse.step (.value frames) = .done frames e.2

theorem foldl_broken (ts : List Token) : ts.foldl Parse.step .broken = .broken := by
  induction ts with
  | nil => rfl
  | cons t ts ih => exact ih

/-- What can stand behind the start of a list, other than its end, is read as it is elsewhere. -/
theorem foldl_firstItem {frames : List Frame} (hne : ts ≠ [])
    (h : ts.foldl Parse.step (.value (.list [] :: frames)) ≠ .broken) :
    ts.foldl Parse.step (.firstItem frames) =
      ts.foldl Parse.step (.value (.list [] :: frames)) := by
  obtain ⟨token, ts, rfl⟩ := List.exists_cons_of_ne_nil hne
  rw [List.foldl_cons] at h ⊢
  by_cases hclose : token = .closeList
  · subst hclose
    exact absurd (foldl_broken ts) h
  · have hstep : Parse.step (.firstItem frames) token =
        Parse.step (.value (.list [] :: frames)) token := if_neg hclose
    rw [hstep, List.foldl_cons]

variable {sep front back : List Char} {ws : List (List Char)} {items : List Tree}
  {entries : List (String × Tree)} {t : Tree}

/-- The items of a list with its end behind them. -/
theorem reads_items (hsep : Closed sep [.comma]) (hends : Ends sep)
    (h : List.Forall₂ Gives ws items) (hne : ws ≠ []) :
    ∃ ts, Reads (List.intercalate sep ws) ts ∧ ∀ frames before,
      (ts ++ [Token.closeList]).foldl Parse.step (.value (.list before :: frames)) =
        .done frames (.list (before ++ items)) := by
  induction h with
  | nil => exact absurd rfl hne
  | @cons w t ws items hw hws ih =>
    obtain ⟨ts, hreads, hparse⟩ := hw
    cases hws with
    | nil =>
      refine ⟨ts, by simpa using hreads, fun frames before => ?_⟩
      rw [List.foldl_append, hparse]
      rfl
    | cons hv hvs =>
      obtain ⟨us, hrest, hparse'⟩ := ih (List.cons_ne_nil _ _)
      refine ⟨ts ++ [.comma] ++ us, ?_, fun frames before => ?_⟩
      · rw [List.intercalate_cons_cons]
        exact (hreads.append_closed hsep hends).append_reads hrest
      · rw [List.append_assoc, List.append_assoc, List.foldl_append, hparse, List.foldl_append]
        have hcomma : [Token.comma].foldl Parse.step (.done (.list before :: frames) t) =
            .value (.list (before ++ [t]) :: frames) := rfl
        rw [hcomma, hparse', List.append_assoc, List.singleton_append]

/-- Items between brackets, with a comma in each of the separators. -/
theorem gives_list (hfront : Closed front [.openList]) (hsep : Closed sep [.comma])
    (hends : Ends sep) (hback : Closed back [.closeList]) (hends' : Ends back)
    (h : List.Forall₂ Gives ws items) :
    Gives (front ++ List.intercalate sep ws ++ back) (.list items) := by
  by_cases hne : ws = []
  · subst hne
    cases h
    refine ⟨[.openList] ++ [.closeList], ?_, fun frames => rfl⟩
    simpa using (hfront.append hback).reads
  · obtain ⟨ts, hreads, hparse⟩ := reads_items hsep hends h hne
    refine ⟨[.openList] ++ (ts ++ [.closeList]), ?_, fun frames => ?_⟩
    · rw [List.append_assoc]
      exact (hfront.append (hreads.append_closed hback hends')).reads
    · rw [List.singleton_append, List.foldl_cons]
      have hopen : Parse.step (.value frames) .openList = .firstItem frames := rfl
      rw [hopen, foldl_firstItem (by simp), hparse, List.nil_append]
      rw [hparse]
      exact nofun

/-- The entries of a table with its end behind them. -/
theorem reads_entries (hsep : Closed sep [.comma]) (hends : Ends sep)
    (h : List.Forall₂ GivesEntry ws entries) (hne : ws ≠ []) :
    ∃ name ts, Reads (List.intercalate sep ws) (.text name :: ts) ∧ ∀ frames before,
      (Token.text name :: ts ++ [Token.closeTable]).foldl Parse.step (.key frames before) =
        .done frames (.table (before ++ entries)) := by
  induction h with
  | nil => exact absurd rfl hne
  | @cons w e ws entries hw hws ih =>
    obtain ⟨ts, hreads, hparse⟩ := hw
    have hname : ∀ frames before, (Token.text e.1 :: .colon :: ts).foldl Parse.step
        (.key frames before) = .done (.entry before e.1 :: frames) e.2 := by
      intro frames before
      exact hparse (.entry before e.1 :: frames)
    cases hws with
    | nil =>
      refine ⟨e.1, .colon :: ts, by simpa using hreads, fun frames before => ?_⟩
      rw [List.foldl_append, hname]
      rfl
    | cons hv hvs =>
      obtain ⟨name, us, hrest, hparse'⟩ := ih (List.cons_ne_nil _ _)
      refine ⟨e.1, .colon :: ts ++ [.comma] ++ .text name :: us, ?_, fun frames before => ?_⟩
      · rw [List.intercalate_cons_cons]
        exact (hreads.append_closed hsep hends).append_reads hrest
      · have hall : (.text e.1 :: (.colon :: ts ++ [.comma] ++ .text name :: us) ++
            [.closeTable] : List Token) =
            (.text e.1 :: .colon :: ts) ++ ([.comma] ++ (.text name :: us ++ [.closeTable])) := by
          simp
        have hcomma : [Token.comma].foldl Parse.step (.done (.entry before e.1 :: frames) e.2) =
            .key frames (before ++ [e]) := rfl
        rw [hall, List.foldl_append, hname, List.foldl_append, hcomma, hparse', List.append_assoc,
          List.singleton_append]

/-- Entries between braces, with a comma in each of the separators. -/
theorem gives_table (hfront : Closed front [.openTable]) (hsep : Closed sep [.comma])
    (hends : Ends sep) (hback : Closed back [.closeTable]) (hends' : Ends back)
    (h : List.Forall₂ GivesEntry ws entries) :
    Gives (front ++ List.intercalate sep ws ++ back) (.table entries) := by
  by_cases hne : ws = []
  · subst hne
    cases h
    refine ⟨[.openTable] ++ [.closeTable], ?_, fun frames => rfl⟩
    simpa using (hfront.append hback).reads
  · obtain ⟨name, ts, hreads, hparse⟩ := reads_entries hsep hends h hne
    refine ⟨[.openTable] ++ (.text name :: ts ++ [.closeTable]), ?_, fun frames => ?_⟩
    · rw [List.append_assoc]
      exact (hfront.append (hreads.append_closed hback hends')).reads
    · exact hparse frames []

/-- A name in front of a value. -/
theorem givesEntry_quote (name : String) (h : Gives w t) :
    GivesEntry ((quote name).toList ++ [':', ' '] ++ w) (name, t) := by
  obtain ⟨ts, hreads, hparse⟩ := h
  refine ⟨ts, ?_, hparse⟩
  have hcolon : Closed [':', ' '] [.colon] :=
    (closed_mark (c := ':') rfl).append (closed_blanks (w := [' ']) (by decide))
  exact ((closed_quote name).append hcolon).append_reads hreads

/-! ## Values -/

theorem gives_word (hne : w ≠ []) (h : w.all inWord = true)
    (ht : wordTree? (String.ofList w) = some t) : Gives w t := by
  refine ⟨_, reads_word hne h, fun frames => ?_⟩
  simp [Parse.step, Parse.begin, ht]

theorem inWord_of_inNumber (h : inNumber c = true) : inWord c = true := by
  simp only [inNumber, Bool.or_eq_true, beq_iff_eq] at h
  simp only [inWord, Bool.or_eq_true, beq_iff_eq]
  rcases h with ((((h | rfl) | rfl) | rfl) | rfl) | rfl
  · simp [Char.isAlphanum, h]
  all_goals decide

theorem wordTree?_of_inNumber {word : String} (h : ∀ c ∈ word.toList, inNumber c = true) :
    wordTree? word = some (.number word) := by
  have hall : word.toList.all inNumber = true := List.all_eq_true.mpr h
  unfold wordTree?
  split
  all_goals first
    | rfl
    | exact absurd hall (by decide)
    | exact if_pos hall

theorem gives_number {word : String} (hne : word ≠ "")
    (h : ∀ c ∈ word.toList, inNumber c = true) : Gives word.toList (.number word) := by
  have hin : word.toList.all inWord = true :=
    List.all_eq_true.mpr fun c hc => inWord_of_inNumber (h c hc)
  refine gives_word (by simpa using hne) hin ?_
  rw [String.ofList_toList]
  exact wordTree?_of_inNumber h

theorem gives_text (s : String) : Gives (quote s).toList (.text s) :=
  ⟨[.text s], (closed_quote s).reads, fun _ => rfl⟩

/-! ## Numerals -/

/-- Is the text made of characters of numbers alone? -/
def IsNumeral (s : List Char) : Prop := ∀ c ∈ s, inNumber c = true

instance : DecidablePred IsNumeral :=
  fun s => List.decidableBAll (fun c => inNumber c = true) s

theorem isNumeral_append_iff : IsNumeral (w ++ v) ↔ IsNumeral w ∧ IsNumeral v := by
  unfold IsNumeral
  simp [or_imp, forall_and]

theorem isNumeral_cons_iff : IsNumeral (c :: w) ↔ inNumber c = true ∧ IsNumeral w := by
  unfold IsNumeral
  simp

theorem isNumeral_replicate (n : Nat) : IsNumeral (List.replicate n '0') := by
  intro c hc
  rw [(List.mem_replicate.mp hc).2]
  decide

theorem isNumeral_toDigits (n : Nat) : IsNumeral (Nat.toDigits 10 n) := by
  intro c hc
  have hdigit := Nat.isDigit_of_mem_toDigits (by decide) (by decide) hc
  simp [inNumber, hdigit]

theorem isNumeral_showInt (n : Int) : IsNumeral (Text.showInt n).toList := by
  cases n with
  | ofNat n =>
    rw [Text.showInt, String.toList_ofList]
    exact isNumeral_toDigits n
  | negSucc n =>
    rw [Text.showInt, String.toList_ofList, isNumeral_cons_iff]
    exact ⟨by decide, isNumeral_toDigits _⟩

theorem isNumeral_layout (d : Binary64.Decimal) : IsNumeral (Binary64.layout d).toList := by
  have hds := isNumeral_toDigits d.digits
  have hpart : ∀ s, s ⊆ Nat.toDigits 10 d.digits → IsNumeral s := fun s hs c hc => hds c (hs hc)
  unfold Binary64.layout
  dsimp only
  split
  · split
    · rw [String.toList_ofList, isNumeral_append_iff, isNumeral_cons_iff, isNumeral_cons_iff]
      exact ⟨⟨by decide, by decide, isNumeral_replicate _⟩, hds⟩
    · split
      · rw [String.toList_ofList, isNumeral_append_iff, isNumeral_append_iff]
        exact ⟨⟨hds, isNumeral_replicate _⟩, by decide⟩
      · rw [String.toList_ofList, isNumeral_append_iff, isNumeral_cons_iff]
        exact ⟨hpart _ (List.take_subset _ _), by decide, hpart _ (List.drop_subset _ _)⟩
  · rw [String.toList_ofList, isNumeral_append_iff, isNumeral_append_iff, isNumeral_cons_iff,
      isNumeral_cons_iff]
    refine ⟨⟨?_, by decide, by split <;> decide, isNumeral_replicate _⟩, isNumeral_toDigits _⟩
    split
    · simp [IsNumeral]
    · next hc => rwa [hc] at hds
    · next hc =>
      rw [hc, isNumeral_cons_iff] at hds
      rw [isNumeral_cons_iff, isNumeral_cons_iff]
      exact ⟨hds.1, by decide, hds.2⟩

/-- The text of a number that is neither infinite nor none. -/
theorem isNumeral_toText (s : Bool) (m : Nat) (e : Int) :
    IsNumeral (Binary64.finite s m e).toText.toList := by
  rw [Binary64.toText, String.toList_append, isNumeral_append_iff]
  constructor
  · cases s <;> decide
  · split
    · decide
    · exact isNumeral_layout _

/-! ## What values are written as -/

/-- The name that a key is written as. -/
def nameOf : Key → String
  | .text s => s
  | .int n => Text.showInt n
  | .real x => realText x
  | .bool b => if b then "true" else "false"
  | .null | .bytes _ | .foreign => "null"

mutual

/-- What is to be read of a value. Values that JSON has no form for count as null. -/
def Tree.ofValue : Value → Tree
  | .bool b => .bool b
  | .int n => .number (Text.showInt n)
  | .real x => .number (realText x)
  | .text s => .text s
  | .list items | .tuple items => .list (ofItems items)
  | .table entries => .table (ofEntries entries)
  | .null | .bytes _ | .path _ | .foreign => .null

def Tree.ofItems : List Value → List Tree
  | [] => []
  | v :: vs => ofValue v :: ofItems vs

def Tree.ofEntries : List (Key × Value) → List (String × Tree)
  | [] => []
  | (k, v) :: es => (nameOf k, ofValue v) :: ofEntries es

end

theorem ofEntries_eq_map (es : Entries) :
    Tree.ofEntries es = es.map fun e => (nameOf e.1, .ofValue e.2) := by
  induction es with
  | nil => rfl
  | cons e es ih => rw [Tree.ofEntries, ih, List.map_cons]

/-- Texts are keys of tables that JSON has a form for. -/
theorem entriesHoldForeign_map {α : Type} {as : List α} (name : α → String) {f : α → Value}
    (h : ∀ a ∈ as, holdsForeign (f a) = false) :
    entriesHoldForeign (as.map fun a => (.text (name a), f a)) = false := by
  induction as with
  | nil => rfl
  | cons a as ih =>
    rw [List.forall_mem_cons] at h
    simp [entriesHoldForeign, h.1, ih h.2]

theorem entriesHoldForeign_put {es : Entries} (h : entriesHoldForeign es = false) (name : String)
    {v : Value} (hv : holdsForeign v = false) :
    entriesHoldForeign (es.put (.text name) v) = false := by
  induction es with
  | nil => simp [Entries.put, entriesHoldForeign, hv]
  | cons e es ih =>
    simp only [entriesHoldForeign, Bool.or_eq_false_iff] at h
    obtain ⟨⟨hkey, hvalue⟩, hrest⟩ := h
    unfold Entries.put
    split
    · simp [entriesHoldForeign, hkey, hv, hrest]
    · simp [entriesHoldForeign, hkey, hvalue, ih hrest]

theorem keyText_eq (k : Key) : keyText k = quote (nameOf k) := by
  cases k <;> rfl

theorem gives_showInt (n : Int) : Gives (Text.showInt n).toList (.number (Text.showInt n)) := by
  refine gives_number ?_ (isNumeral_showInt n)
  rw [Ne, ← String.toList_eq_nil_iff]
  cases n with
  | ofNat n => simp [Text.showInt, Nat.toDigits_ne_nil]
  | negSucc n => simp [Text.showInt]

theorem toText_ne_empty (s : Bool) (m : Nat) (e : Int) :
    (Binary64.finite s m e).toText ≠ "" := by
  have hlayout : ∀ d : Binary64.Decimal, (Binary64.layout d).toList ≠ [] := by
    intro d
    unfold Binary64.layout
    dsimp only
    split_ifs <;> simp
  rw [Ne, ← String.toList_eq_nil_iff, Binary64.toText, String.toList_append,
    List.append_eq_nil_iff]
  rintro ⟨-, hm⟩
  split_ifs at hm
  · exact absurd hm (by decide)
  · exact hlayout _ hm

theorem gives_realText (x : Binary64) : Gives (realText x).toList (.number (realText x)) := by
  have hword : ∀ word : String, word.toList ≠ [] → word.toList.all inWord = true →
      wordTree? word = some (.number word) → Gives word.toList (.number word) := by
    intro word hne hin htree
    refine gives_word hne hin ?_
    rwa [String.ofList_toList]
  cases x with
  | nan => exact hword "NaN" (by decide) (by decide) rfl
  | infinity s =>
    cases s with
    | false => exact hword "Infinity" (by decide) (by decide) rfl
    | true => exact hword "-Infinity" (by decide) (by decide) rfl
  | finite s m e => exact gives_number (toText_ne_empty s m e) (isNumeral_toText s m e)

theorem gives_bool (b : Bool) : Gives (if b then "true" else "false").toList (.bool b) := by
  cases b with
  | false => exact gives_word (by decide) (by decide) rfl
  | true => exact gives_word (by decide) (by decide) rfl

theorem gives_null : Gives "null".toList .null := gives_word (by decide) (by decide) rfl

theorem closed_comma : Closed [',', ' '] [.comma] :=
  (closed_mark (c := ',') rfl).append (closed_blanks (w := [' ']) (by decide))

/-- Pieces of one line between brackets. -/
theorem gives_compactItems {pieces : List String}
    (h : List.Forall₂ Gives (pieces.map String.toList) items) :
    Gives ("[" ++ ", ".intercalate pieces ++ "]").toList (.list items) := by
  rw [String.toList_append, String.toList_append, String.toList_intercalate]
  exact gives_list (closed_mark rfl) closed_comma ⟨_, _, rfl, rfl⟩ (closed_mark rfl)
    ⟨_, _, rfl, rfl⟩ h

theorem gives_compactEntries {pieces : List String}
    (h : List.Forall₂ GivesEntry (pieces.map String.toList) entries) :
    Gives ("\x7b" ++ ", ".intercalate pieces ++ "\x7d").toList (.table entries) := by
  rw [String.toList_append, String.toList_append, String.toList_intercalate]
  exact gives_table (closed_mark rfl) closed_comma ⟨_, _, rfl, rfl⟩ (closed_mark rfl)
    ⟨_, _, rfl, rfl⟩ h

mutual

/-- A value on one line. -/
theorem gives_compact (v : Value) (h : holdsForeign v = false) :
    Gives (compact v).toList (.ofValue v) := by
  cases v with
  | null => exact gives_null
  | bool b => exact gives_bool b
  | int n => exact gives_showInt n
  | real x => exact gives_realText x
  | text s => exact gives_text s
  | list items => exact gives_compactItems (forall₂_compactItems items h)
  | tuple items => exact gives_compactItems (forall₂_compactItems items h)
  | table es => exact gives_compactEntries (forall₂_compactEntries es h)
  | bytes | path | foreign => cases h

theorem forall₂_compactItems (vs : List Value) (h : itemsHoldForeign vs = false) :
    List.Forall₂ Gives ((compactItems vs).map String.toList) (Tree.ofItems vs) := by
  match vs with
  | [] => exact .nil
  | v :: vs =>
    rw [itemsHoldForeign, Bool.or_eq_false_iff] at h
    exact .cons (gives_compact v h.1) (forall₂_compactItems vs h.2)

theorem forall₂_compactEntries (es : Entries) (h : entriesHoldForeign es = false) :
    List.Forall₂ GivesEntry ((compactEntries es).map String.toList) (Tree.ofEntries es) := by
  match es with
  | [] => exact .nil
  | (k, v) :: es =>
    unfold entriesHoldForeign at h
    rw [Bool.or_eq_false_iff, Bool.or_eq_false_iff] at h
    refine .cons ?_ (forall₂_compactEntries es h.2)
    have hentry := givesEntry_quote (nameOf k) (gives_compact v h.1.2)
    rw [keyText_eq, String.toList_append, String.toList_append]
    exact hentry

end

/-! ## Several lines -/

theorem toList_newline (depth : Nat) :
    (newline depth).toList = '\n' :: List.replicate (2 * depth) ' ' := by
  simp [newline]

theorem closed_newline (depth : Nat) : Closed (newline depth).toList [] := by
  rw [toList_newline]
  refine closed_blanks (List.all_eq_true.mpr fun c hc => ?_)
  rcases List.mem_cons.mp hc with rfl | hc
  · decide
  · rw [(List.mem_replicate.mp hc).2]
    decide

theorem ends_newline (depth : Nat) (w : List Char) : Ends ((newline depth).toList ++ w) := by
  rw [toList_newline]
  exact ⟨'\n', _, rfl, rfl⟩

/-- A mark in front of a line, and one behind it. -/
theorem closed_mark_newline {t : Token} (h : mark? c = some t) (depth : Nat) :
    Closed (c :: (newline depth).toList) [t] :=
  (closed_mark h).append (closed_newline depth)

theorem closed_newline_mark {t : Token} (h : mark? c = some t) (depth : Nat) :
    Closed ((newline depth).toList ++ [c]) [t] :=
  (closed_newline depth).append (closed_mark h)

/-- Pieces between brackets, one a line. -/
theorem gives_indentedItems {pieces : List String} (depth : Nat)
    (h : List.Forall₂ Gives (pieces.map String.toList) items) :
    Gives (enclose "[" "]" depth pieces).toList (.list items) := by
  unfold enclose
  cases pieces with
  | nil =>
    cases h
    have hnil : Gives ("[" ++ ", ".intercalate [] ++ "]").toList (.list []) :=
      gives_compactItems .nil
    simpa using hnil
  | cons piece pieces =>
    have hlist := gives_list (closed_mark_newline (c := '[') rfl (depth + 1))
      (closed_mark_newline (c := ',') rfl (depth + 1)) ⟨',', _, rfl, rfl⟩
      (closed_newline_mark (c := ']') rfl depth) (ends_newline depth _) h
    rw [if_neg (by simp)]
    simpa [String.toList_intercalate] using hlist

theorem gives_indentedEntries {pieces : List String} (depth : Nat)
    (h : List.Forall₂ GivesEntry (pieces.map String.toList) entries) :
    Gives (enclose "\x7b" "\x7d" depth pieces).toList (.table entries) := by
  unfold enclose
  cases pieces with
  | nil =>
    cases h
    have hnil : Gives ("\x7b" ++ ", ".intercalate [] ++ "\x7d").toList (.table []) :=
      gives_compactEntries .nil
    simpa using hnil
  | cons piece pieces =>
    have htable := gives_table (closed_mark_newline (c := '\x7b') rfl (depth + 1))
      (closed_mark_newline (c := ',') rfl (depth + 1)) ⟨',', _, rfl, rfl⟩
      (closed_newline_mark (c := '\x7d') rfl depth) (ends_newline depth _) h
    rw [if_neg (by simp)]
    simpa [String.toList_intercalate] using htable

mutual

/-- A value over several lines. -/
theorem gives_indented (v : Value) (depth : Nat) (h : holdsForeign v = false) :
    Gives (indented depth v).toList (.ofValue v) := by
  cases v with
  | null => exact gives_null
  | bool b => exact gives_bool b
  | int n => exact gives_showInt n
  | real x => exact gives_realText x
  | text s => exact gives_text s
  | list items => exact gives_indentedItems depth (forall₂_indentedItems items (depth + 1) h)
  | tuple items => exact gives_indentedItems depth (forall₂_indentedItems items (depth + 1) h)
  | table es => exact gives_indentedEntries depth (forall₂_indentedEntries es (depth + 1) h)
  | bytes | path | foreign => cases h

theorem forall₂_indentedItems (vs : List Value) (depth : Nat) (h : itemsHoldForeign vs = false) :
    List.Forall₂ Gives ((indentedItems depth vs).map String.toList) (Tree.ofItems vs) := by
  match vs with
  | [] => exact .nil
  | v :: vs =>
    rw [itemsHoldForeign, Bool.or_eq_false_iff] at h
    exact .cons (gives_indented v depth h.1) (forall₂_indentedItems vs depth h.2)

theorem forall₂_indentedEntries (es : Entries) (depth : Nat)
    (h : entriesHoldForeign es = false) :
    List.Forall₂ GivesEntry ((indentedEntries depth es).map String.toList)
      (Tree.ofEntries es) := by
  match es with
  | [] => exact .nil
  | (k, v) :: es =>
    unfold entriesHoldForeign at h
    rw [Bool.or_eq_false_iff, Bool.or_eq_false_iff] at h
    refine .cons ?_ (forall₂_indentedEntries es depth h.2)
    have hentry := givesEntry_quote (nameOf k) (gives_indented v depth h.1.2)
    rw [keyText_eq, String.toList_append, String.toList_append]
    exact hentry

end

/-! ## Reading -/

/-- A text that is read as a tree, with blanks behind it. -/
theorem read?_of_gives (h : Gives w t) (hv : v.all isBlank = true) :
    read? (String.ofList (w ++ v)) = some t := by
  obtain ⟨ts, hreads, hparse⟩ := h
  have hclosed : Closed (w ++ (v ++ [' '])) (ts ++ []) := by
    have hblanks : (v ++ [' ']).all isBlank = true := by
      rw [List.all_append, hv]
      rfl
    refine hreads.append_closed (closed_blanks hblanks) ?_
    cases v with
    | nil => exact ⟨' ', [], rfl, rfl⟩
    | cons d v =>
      rw [List.all_cons, Bool.and_eq_true] at hv
      exact ⟨d, v ++ [' '], rfl, (of_isBlank hv.1).2⟩
  have htokens : tokens? (w ++ v) = some ts := by
    unfold tokens?
    have hfold := hclosed []
    rw [List.append_assoc, hfold]
    simp
  unfold read?
  rw [String.toList_ofList, htokens]
  simp [hparse]

/-- What is printed over several lines is read back, with a line break behind it as well. -/
theorem read?_pretty {v : Value} (h : holdsForeign v = false) :
    read? (pretty v) = some (.ofValue v) ∧ read? (pretty v ++ "\n") = some (.ofValue v) := by
  have hgives := gives_indented v 0 h
  constructor
  · have hread := read?_of_gives (v := []) hgives (by simp)
    rwa [List.append_nil, String.ofList_toList] at hread
  · have hread := read?_of_gives (v := ['\n']) hgives (by decide)
    rwa [String.ofList_append, String.ofList_toList] at hread

theorem read?_compact {v : Value} (h : holdsForeign v = false) :
    read? (compact v) = some (.ofValue v) := by
  have hread := read?_of_gives (v := []) (gives_compact v h) (by simp)
  rwa [List.append_nil, String.ofList_toList] at hread

end FlipSat.Json
