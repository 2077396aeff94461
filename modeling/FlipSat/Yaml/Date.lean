import FlipSat.Text.Numeral

/-
  FlipSat: dates in YAML, alone or with a time of day and a time zone.
-/
namespace FlipSat.Yaml

def isDigit (c : Char) : Bool := '0' ≤ c && c ≤ '9'

/-- Takes from `least` to `most` digits and gives their number. -/
def takeNumber? (least most : Nat) (s : List Char) : Option (Nat × List Char) :=
  let ds := (s.take most).takeWhile isDigit
  if ds.length < least then none
  else some (Text.ofDigits (ds.map fun c => c.toNat - 48), s.drop ds.length)

def takeChar? (c : Char) : List Char → Option (List Char)
  | d :: s => if c == d then some s else none
  | [] => none

/-- A date, or a date with a time. -/
structure DateForm where
  year : Nat
  month : Nat
  day : Nat
  hour : Nat := 0
  minute : Nat := 0
  second : Nat := 0
  offset : Nat := 0

/-- The time zone at the end of a date, in minutes. -/
def zone? (s : List Char) : Option Nat :=
  let isGap (c : Char) : Bool := c == ' ' || c == '\t'
  match s with
  | [] => some 0
  | _ =>
    match s.dropWhile isGap with
    | ['Z'] => some 0
    | '-' :: t | '+' :: t => do
      let (hours, t) ← takeNumber? 1 2 t
      match t with
      | [] => some (60 * hours)
      | t => do
        let t ← takeChar? ':' t
        let (minutes, t) ← takeNumber? 2 2 t
        if t.isEmpty then some (60 * hours + minutes) else none
    | _ => none

/-- The time of day in a date, with its zone. -/
def timeForm? (d : DateForm) (s : List Char) : Option DateForm := do
  let isGap (c : Char) : Bool := c == ' ' || c == '\t'
  let t ← match s with
    | 'T' :: t | 't' :: t => some t
    | c :: t => if isGap c then some (t.dropWhile isGap) else none
    | [] => none
  let (hour, t) ← takeNumber? 1 2 t
  let t ← takeChar? ':' t
  let (minute, t) ← takeNumber? 2 2 t
  let t ← takeChar? ':' t
  let (second, t) ← takeNumber? 2 2 t
  let t := match t with
    | '.' :: t => t.dropWhile isDigit
    | t => t
  let offset ← zone? t
  some { d with hour := hour, minute := minute, second := second, offset := offset }

/-- Reads a date; whether there is such a day is another question. -/
def dateForm? (s : List Char) : Option DateForm := do
  let (year, t) ← takeNumber? 4 4 s
  let t ← takeChar? '-' t
  let (month, t) ← takeNumber? 1 2 t
  let t ← takeChar? '-' t
  let (day, t) ← takeNumber? 1 2 t
  let d : DateForm := { year := year, month := month, day := day }
  if t.isEmpty then some d else timeForm? d t

/-- Is the scalar a date by its form? A date without a time has all its digits. -/
def isDateForm (s : List Char) : Bool := 10 ≤ s.length && (dateForm? s).isSome

def daysIn (year month : Nat) : Nat :=
  if month == 2 then
    if year % 4 == 0 && (year % 100 != 0 || year % 400 == 0) then 29 else 28
  else if month == 4 || month == 6 || month == 9 || month == 11 then 30
  else 31

/-- Is there such a day and time? -/
def DateForm.exists? (d : DateForm) : Bool :=
  1 ≤ d.year && 1 ≤ d.month && d.month ≤ 12 && 1 ≤ d.day && d.day ≤ daysIn d.year d.month &&
    d.hour < 24 && d.minute < 60 && d.second < 60 && d.offset < 1440

end FlipSat.Yaml
