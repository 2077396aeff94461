import FlipSat.Text.Printable

/-
  FlipSat: a text written between quotes, so that every character of it can be seen.
-/
namespace FlipSat.Text

/-- The last `width` hexadecimal digits of a number, in lower case. -/
def hexDigits (width n : Nat) : List Char :=
  let ds := Nat.toDigits 16 n
  List.replicate (width - ds.length) '0' ++ ds

/-- How one character is written between `quote` characters, where `shown` says which characters
    stand for themselves. -/
def quoteChar (shown : Char → Bool) (quote c : Char) : List Char :=
  if c == '\\' || c == quote then ['\\', c]
  else if c == '\n' then ['\\', 'n']
  else if c == '\r' then ['\\', 'r']
  else if c == '\t' then ['\\', 't']
  else if shown c then [c]
  else if c.toNat < 0x100 then '\\' :: 'x' :: hexDigits 2 c.toNat
  else if c.toNat < 0x10000 then '\\' :: 'u' :: hexDigits 4 c.toNat
  else '\\' :: 'U' :: hexDigits 8 c.toNat

/-- Single quotes are used unless the text holds a single quote and no double quote. -/
def quoteFor (s : List Char) : Char :=
  if s.contains '\x27' && !s.contains '\x22' then '\x22' else '\x27'

/-- The text between quotes, with the characters in it that are shown as they are. -/
def quotedWith (shown : Char → Bool) (s : String) : String :=
  let q := quoteFor s.toList
  String.ofList (q :: s.toList.flatMap (quoteChar shown q) ++ [q])

/-- The text between quotes. -/
def quoted (s : String) : String := quotedWith isPrintable s

/-- The text between quotes, in ASCII characters alone. -/
def quotedAscii (s : String) : String :=
  quotedWith (fun c => 0x20 ≤ c.toNat && c.toNat < 0x7F) s

end FlipSat.Text
