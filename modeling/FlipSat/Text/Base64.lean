/-
  FlipSat: bytes written with 64 letters, six bits each. Reading passes over everything that is no
  such letter; writing breaks the letters into lines.
-/
namespace FlipSat.Text.Base64

/-- The letters, in the order of what they stand for. -/
def letters : List Char :=
  "ABCDEFGHIJKLMNOPQRSTUVWXYZabcdefghijklmnopqrstuvwxyz0123456789+/".toList

/-- What is known between two letters: how many letters of the current four were read, what is left
    of the last one, and how many padding signs have followed it. -/
structure Reader where
  phase : Nat := 0
  left : Nat := 0
  pads : Nat := 0

/-- The bytes that a run of letters stands for. Four letters make three bytes, and an incomplete
    four has to be filled up by padding, behind which nothing is read. -/
def decodeFrom (r : Reader) : List Char → Option (List UInt8)
  | [] => if r.phase == 0 then some [] else none
  | c :: s =>
    if c == '=' then
      let r := if 2 ≤ r.phase then { r with pads := r.pads + 1 } else r
      if 2 ≤ r.phase && 4 ≤ r.phase + r.pads then some [] else decodeFrom r s
    else
      match letters.idxOf? c with
      | none => decodeFrom r s
      | some v =>
        let byte (n : Nat) : UInt8 := UInt8.ofNat n
        match r.phase with
        | 0 => decodeFrom ⟨1, v, 0⟩ s
        | 1 => (decodeFrom ⟨2, v % 16, 0⟩ s).map (byte (4 * r.left + v / 16) :: ·)
        | 2 => (decodeFrom ⟨3, v % 4, 0⟩ s).map (byte (16 * r.left + v / 4) :: ·)
        | _ => (decodeFrom {} s).map (byte (64 * r.left + v) :: ·)

/-- The bytes that a text stands for. -/
def decode? (s : List Char) : Option (List UInt8) := decodeFrom {} s

/-- The letter of a number below 64. -/
def letter (n : Nat) : Char := letters.getD n 'A'

/-- The letters of some bytes, filled up to fours. -/
def encode : List UInt8 → List Char
  | a :: b :: c :: s =>
    letter (a.toNat / 4) :: letter (a.toNat % 4 * 16 + b.toNat / 16) ::
      letter (b.toNat % 16 * 4 + c.toNat / 64) :: letter (c.toNat % 64) :: encode s
  | [a, b] =>
    [letter (a.toNat / 4), letter (a.toNat % 4 * 16 + b.toNat / 16), letter (b.toNat % 16 * 4), '=']
  | [a] => [letter (a.toNat / 4), letter (a.toNat % 4 * 16), '=', '=']
  | [] => []

/-- How many bytes stand on one line. -/
def bytesPerLine : Nat := 57

/-- Lines of letters; every line has its end. `most` bounds their number. -/
def linesOf (bytes : List UInt8) : (most : Nat) → List Char
  | 0 => []
  | n + 1 =>
    if bytes.isEmpty then []
    else encode (bytes.take bytesPerLine) ++ '\n' :: linesOf (bytes.drop bytesPerLine) n

/-- The bytes as lines of letters. -/
def lines (bytes : List UInt8) : List Char := linesOf bytes (bytes.length + 1)

end FlipSat.Text.Base64
