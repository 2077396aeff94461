import FlipSat.Pieces
import FlipSat.Text.Ranges

/-
  FlipSat: blank characters, and the two things done with them: trimming a text at both ends
  and cutting it into words. Texts are lists of characters here.
-/
namespace FlipSat.Text

/-- The code points that separate words: the white space of Unicode, and the four separators
    U+001C to U+001F. -/
def blankRanges : List (Nat × Nat) := [
  (0x09, 0x0D), (0x1C, 0x20), (0x85, 0x85), (0xA0, 0xA0), (0x1680, 0x1680), (0x2000, 0x200A),
  (0x2028, 0x2029), (0x202F, 0x202F), (0x205F, 0x205F), (0x3000, 0x3000)]

def isBlank (c : Char) : Bool := inRanges blankRanges c.toNat

/-- The text without its leading blanks. -/
def trimStart (s : List Char) : List Char := s.dropWhile isBlank

/-- The text without its trailing blanks. -/
def trimEnd (s : List Char) : List Char := (s.reverse.dropWhile isBlank).reverse

/-- The text without blanks at either end. -/
def trim (s : List Char) : List Char := trimEnd (trimStart s)

/-- Holds the text nothing but blanks? -/
def allBlank (s : List Char) : Bool := s.all isBlank

/-- Cuts a text at every occurrence of one character. -/
def splitOn (sep : Char) (s : List Char) : List (List Char) := splitWhere (· == sep) s

/-- The longest runs of characters that are not blank, in order. -/
def words (s : List Char) : List (List Char) :=
  nonemptyPieces isBlank s

/-- The text trimmed at both ends. -/
def trimmed (s : String) : String := String.ofList (trim s.toList)

end FlipSat.Text
