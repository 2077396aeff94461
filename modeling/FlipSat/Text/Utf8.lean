/-
  FlipSat: reading bytes as UTF-8 text, and saying why bytes are no such text.
-/
namespace FlipSat.Text

/-- Why a sequence of bytes is not UTF-8. -/
inductive Utf8Fault where
  | startByte
  | continuationByte
  | endOfData
deriving DecidableEq, Repr

def Utf8Fault.reason : Utf8Fault → String
  | .startByte => "invalid start byte"
  | .continuationByte => "invalid continuation byte"
  | .endOfData => "unexpected end of data"

/-- The number of bytes after a start byte, and the range of the first of them. -/
def continuationOf? (b : UInt8) : Option (Nat × UInt8 × UInt8) :=
  if b < 0x80 then some (0, 0x80, 0xBF)
  else if b < 0xC2 then none
  else if b < 0xE0 then some (1, 0x80, 0xBF)
  else if b == 0xE0 then some (2, 0xA0, 0xBF)
  else if b == 0xED then some (2, 0x80, 0x9F)
  else if b < 0xF0 then some (2, 0x80, 0xBF)
  else if b == 0xF0 then some (3, 0x90, 0xBF)
  else if b < 0xF4 then some (3, 0x80, 0xBF)
  else if b == 0xF4 then some (3, 0x80, 0x8F)
  else none

/-- The first fault of a sequence of bytes; `owed` bytes of the current character are still to
    come, the next of them between `low` and `high`. -/
def utf8FaultFrom (owed : Nat) (low high : UInt8) : List UInt8 → Option Utf8Fault
  | [] => if owed = 0 then none else some .endOfData
  | b :: bs =>
    match owed with
    | 0 =>
      match continuationOf? b with
      | none => some .startByte
      | some (n, l, h) => utf8FaultFrom n l h bs
    | n + 1 =>
      if low ≤ b && b ≤ high then utf8FaultFrom n 0x80 0xBF bs else some .continuationByte

/-- The first fault of a sequence of bytes, if it is not UTF-8. -/
def utf8Fault? (bytes : ByteArray) : Option Utf8Fault := utf8FaultFrom 0 0x80 0xBF bytes.toList

/-- The text that the bytes encode. -/
def ofUtf8 (bytes : ByteArray) : Except Utf8Fault String :=
  match String.fromUTF8? bytes with
  | some s => .ok s
  | none => .error ((utf8Fault? bytes).getD .startByte)

end FlipSat.Text
