import FlipSat.Json.Printer
import FlipSat.Json.Reader
import FlipSat.Proofs.Blank

/-
  FlipSat: characters that are read as tokens of JSON.
  What a text is written as between quotes is read as the text, whatever characters it has
  (`closed_quote`). Other pieces are put together from two sorts: those that are read as tokens
  whatever stands behind them (`Closed`), and those that end with a word, which something behind
  them has to end (`Reads`).
-/
namespace FlipSat.Json

variable {c d : Char} {s w v : List Char} {ts us : List Token} {units : List Nat} {n : Nat}

/-! ## Units of texts -/

theorem ofUnits?_unitsOf_append (c : Char) (units : List Nat) :
    ofUnits? (unitsOf c ++ units) = (ofUnits? units).map (c :: ·) := by
  have hvalid : c.toNat < 0xD800 ∨ 0xDFFF < c.toNat ∧ c.toNat < 0x110000 := c.valid
  unfold unitsOf
  dsimp only
  split
  · next hn =>
    have hlow : (0xD800 ≤ c.toNat && c.toNat < 0xE000) = false := by
      simp only [Bool.and_eq_false_iff, decide_eq_false_iff_not]
      omega
    have hhigh : (0xD800 ≤ c.toNat && c.toNat < 0xDC00) = false := by
      simp only [Bool.and_eq_false_iff, decide_eq_false_iff_not]
      omega
    have htrail : (0xDC00 ≤ c.toNat && c.toNat < 0xE000) = false := by
      simp only [Bool.and_eq_false_iff, decide_eq_false_iff_not]
      omega
    cases units with
    | nil => simp [ofUnits?, hlow]
    | cons u units => simp [ofUnits?, hhigh, htrail]
  · next hn =>
    have hfirst : (0xD800 ≤ 0xD800 + (c.toNat - 0x10000) / 0x400 &&
        0xD800 + (c.toNat - 0x10000) / 0x400 < 0xDC00) = true := by
      simp only [Bool.and_eq_true, decide_eq_true_eq]
      omega
    have hsecond : (0xDC00 ≤ 0xDC00 + (c.toNat - 0x10000) % 0x400 &&
        0xDC00 + (c.toNat - 0x10000) % 0x400 < 0xE000) = true := by
      simp only [Bool.and_eq_true, decide_eq_true_eq]
      omega
    have hnumber : 0x10000 + (0xD800 + (c.toNat - 0x10000) / 0x400 - 0xD800) * 0x400 +
        (0xDC00 + (c.toNat - 0x10000) % 0x400 - 0xDC00) = c.toNat := by omega
    rw [List.cons_append, List.cons_append, List.nil_append, ofUnits?, if_pos hfirst,
      if_pos hsecond, hnumber, Char.ofNat_toNat]

theorem ofUnits?_flatMap (s : List Char) : ofUnits? (s.flatMap unitsOf) = some s := by
  induction s with
  | nil => rfl
  | cons c s ih => rw [List.flatMap_cons, ofUnits?_unitsOf_append, ih, Option.map_some]

/-! ## Characters between quotes -/

theorem hexDigit?_digitChar (h : n < 16) : hexDigit? (Nat.digitChar n) = some n := by
  revert n
  decide

/-- Four hexadecimal digits are those of the number. -/
theorem hexDigits_four (h : n < 0x10000) : Text.hexDigits 4 n =
    [n / 0x1000, n / 0x100 % 16, n / 16 % 16, n % 16].map Nat.digitChar := by
  have hzero : Nat.digitChar 0 = '0' := rfl
  unfold Text.hexDigits
  dsimp only
  rw [Nat.toDigits_eq_if (by decide)]
  split
  · next h1 =>
    have e1 : n / 0x1000 = 0 := by omega
    have e2 : n / 0x100 % 16 = 0 := by omega
    have e3 : n / 16 % 16 = 0 := by omega
    have e4 : n % 16 = n := by omega
    simp [e1, e2, e3, e4, hzero, List.replicate]
  · rw [Nat.toDigits_eq_if (by decide)]
    split
    · next h2 =>
      have e1 : n / 0x1000 = 0 := by omega
      have e2 : n / 0x100 % 16 = 0 := by omega
      have e3 : n / 16 % 16 = n / 16 := by omega
      simp [e1, e2, e3, hzero, List.replicate]
    · rw [Nat.toDigits_eq_if (by decide)]
      split
      · next h3 =>
        have e1 : n / 0x1000 = 0 := by omega
        have e2 : n / 0x100 % 16 = n / 16 / 16 := by omega
        simp [e1, e2, hzero]
      · rw [Nat.toDigits_eq_if (by decide), if_pos (by omega)]
        have e1 : n / 0x1000 = n / 16 / 16 / 16 := by omega
        have e2 : n / 0x100 % 16 = n / 16 / 16 % 16 := by omega
        simp [e1, e2]

theorem read_unit (h : n < 0x10000) (front : List Token) (units : List Nat) :
    (unit n).foldl Lexer.read ⟨front, .text units⟩ = ⟨front, .text (units ++ [n])⟩ := by
  have hsum : 16 * (16 * (16 * (n / 0x1000) + n / 0x100 % 16) + n / 16 % 16) + n % 16 = n := by
    omega
  have h1 : n / 0x1000 < 16 := by omega
  have h2 : n / 0x100 % 16 < 16 := by omega
  have h3 : n / 16 % 16 < 16 := by omega
  have h4 : n % 16 < 16 := by omega
  unfold unit
  rw [hexDigits_four h]
  simp [Lexer.read, Lexer.readText, Lexer.readEscaped, Lexer.readUnit, hexDigit?_digitChar, h1, h2,
    h3, h4, hsum]

theorem read_short (hletter : c ≠ 'u') (hd : escaped? c = some d) (front : List Token)
    (units : List Nat) : ['\\', c].foldl Lexer.read ⟨front, .text units⟩ =
      ⟨front, .text (units ++ unitsOf d)⟩ := by
  simp [Lexer.read, Lexer.readText, Lexer.readEscaped, hletter, hd]

/-- What a character is written as between quotes is read as the character. -/
theorem read_escape (c : Char) (front : List Token) (units : List Nat) :
    (escape c).foldl Lexer.read ⟨front, .text units⟩ = ⟨front, .text (units ++ unitsOf c)⟩ := by
  have hvalid : c.toNat < 0xD800 ∨ 0xDFFF < c.toNat ∧ c.toNat < 0x110000 := c.valid
  unfold escape
  simp only [beq_iff_eq]
  split_ifs with hquote hslash hfeed hreturn htab hback hform hshown hsmall
  · subst hquote
    exact read_short (by decide) rfl front units
  · subst hslash
    exact read_short (by decide) rfl front units
  · subst hfeed
    exact read_short (by decide) rfl front units
  · subst hreturn
    exact read_short (by decide) rfl front units
  · subst htab
    exact read_short (by decide) rfl front units
  · subst hback
    exact read_short (by decide) rfl front units
  · subst hform
    exact read_short (by decide) rfl front units
  · have hlow : ¬ c.toNat < 0x20 := by
      simp only [Bool.and_eq_true, decide_eq_true_eq] at hshown
      omega
    simp [Lexer.read, Lexer.readText, hquote, hslash, hlow]
  · have hunits : unitsOf c = [c.toNat] := if_pos hsmall
    rw [hunits]
    exact read_unit hsmall front units
  · have hunits : unitsOf c =
        [0xD800 + (c.toNat - 0x10000) / 0x400, 0xDC00 + (c.toNat - 0x10000) % 0x400] :=
      if_neg hsmall
    rw [List.foldl_append, read_unit (by omega), read_unit (by omega), hunits, List.append_assoc]
    rfl

theorem read_flatMap_escape (s : List Char) (front : List Token) (units : List Nat) :
    (s.flatMap escape).foldl Lexer.read ⟨front, .text units⟩ =
      ⟨front, .text (units ++ s.flatMap unitsOf)⟩ := by
  induction s generalizing units with
  | nil => simp
  | cons c s ih =>
    rw [List.flatMap_cons, List.foldl_append, read_escape, ih, List.flatMap_cons,
      List.append_assoc]

/-! ## Tokens of texts -/

/-- A text that is read as tokens, whatever stands behind it. -/
def Closed (w : List Char) (ts : List Token) : Prop :=
  ∀ front, w.foldl Lexer.read ⟨front, .between⟩ = ⟨front ++ ts, .between⟩

/-- A text that is read as tokens when something behind it ends its last word. -/
def Reads (w : List Char) (ts : List Token) : Prop :=
  ∀ front c, inWord c = false →
    (w ++ [c]).foldl Lexer.read ⟨front, .between⟩ = Lexer.read ⟨front ++ ts, .between⟩ c

/-- Does the text begin with something that ends a word? -/
def Ends (w : List Char) : Prop := ∃ c v, w = c :: v ∧ inWord c = false

theorem Closed.reads (h : Closed w ts) : Reads w ts := by
  intro front c hc
  rw [List.foldl_append, h, List.foldl_cons, List.foldl_nil]

theorem Closed.append (h : Closed w ts) (h' : Closed v us) : Closed (w ++ v) (ts ++ us) := by
  intro front
  rw [List.foldl_append, h, h', List.append_assoc]

theorem Closed.append_reads (h : Closed w ts) (h' : Reads v us) : Reads (w ++ v) (ts ++ us) := by
  intro front c hc
  rw [List.append_assoc, List.foldl_append, h, h' _ c hc, List.append_assoc]

/-- What stands behind a text begins with something that ends its last word. -/
theorem Reads.append_closed (h : Reads w ts) (h' : Closed v us) (hends : Ends v) :
    Closed (w ++ v) (ts ++ us) := by
  obtain ⟨c, v, rfl, hc⟩ := hends
  intro front
  have hrest := h' (front ++ ts)
  rw [List.foldl_cons] at hrest
  rw [List.append_cons, List.foldl_append, h front c hc, hrest, List.append_assoc]

theorem closed_quote (s : String) : Closed (quote s).toList [.text s] := by
  intro front
  have hopen : Lexer.read ⟨front, .between⟩ '\x22' = ⟨front, .text []⟩ := rfl
  rw [quote, String.toList_ofList, List.cons_append, List.foldl_cons, hopen, List.foldl_append,
    read_flatMap_escape, List.nil_append, List.foldl_cons, List.foldl_nil]
  simp [Lexer.read, Lexer.readText, ofUnits?_flatMap, Lexer.emit]

theorem closed_mark {t : Token} (h : mark? c = some t) : Closed [c] [t] := by
  intro front
  simp [Lexer.read, Lexer.readBetween, h, Lexer.emit]

theorem of_isBlank (h : isBlank c = true) : mark? c = none ∧ inWord c = false := by
  simp only [isBlank, Bool.or_eq_true, beq_iff_eq, or_assoc] at h
  rcases h with rfl | rfl | rfl | rfl
  all_goals exact ⟨rfl, by decide⟩

theorem closed_blanks (h : w.all isBlank = true) : Closed w [] := by
  intro front
  rw [List.append_nil]
  induction w with
  | nil => rfl
  | cons c w ih =>
    rw [List.all_cons, Bool.and_eq_true] at h
    have hread : Lexer.read ⟨front, .between⟩ c = ⟨front, .between⟩ := by
      simp [Lexer.read, Lexer.readBetween, (of_isBlank h.1).1, h.1]
    rw [List.foldl_cons, hread]
    exact ih h.2

/-- A character of a word is none that stands between tokens. -/
theorem readBetween_of_inWord (h : inWord c = true) (front : List Token) :
    Lexer.read ⟨front, .between⟩ c = ⟨front, .word [c]⟩ := by
  have hmark : mark? c = none := by
    unfold mark?
    split
    all_goals first
      | rfl
      | exact absurd h (by decide)
  have hblank : isBlank c = false := by
    by_contra hc
    rw [(of_isBlank (by simpa using hc)).2] at h
    cases h
  have hquote : c ≠ '\x22' := by
    rintro rfl
    exact absurd h (by decide)
  simp [Lexer.read, Lexer.readBetween, hmark, hblank, hquote, h]

theorem reads_word (hne : w ≠ []) (h : w.all inWord = true) :
    Reads w [.word (String.ofList w)] := by
  intro front c hc
  rw [List.all_eq_true] at h
  obtain ⟨d, w, rfl⟩ := List.exists_cons_of_ne_nil hne
  have hword : ∀ cs, w.foldl Lexer.read ⟨front, .word cs⟩ = ⟨front, .word (cs ++ w)⟩ := by
    intro cs
    have hrest : ∀ c ∈ w, inWord c = true := fun c hc => h c (List.mem_cons_of_mem d hc)
    clear h hne
    induction w generalizing cs with
    | nil => simp
    | cons e w ih =>
      have he : Lexer.read ⟨front, .word cs⟩ e = ⟨front, .word (cs ++ [e])⟩ := by
        simp [Lexer.read, hrest e List.mem_cons_self]
      rw [List.foldl_cons, he, ih _ fun c hc => hrest c (List.mem_cons_of_mem e hc),
        List.append_assoc, List.singleton_append]
  rw [List.cons_append, List.foldl_cons, readBetween_of_inWord (h d List.mem_cons_self),
    List.foldl_append, hword]
  simp [Lexer.read, hc, Lexer.emit]

end FlipSat.Json
