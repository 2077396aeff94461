/-
  FlipSat: the Mersenne twister, a generator of 32 bit words with a state of 624 words, seeded by
  an integer of any size.
-/
namespace FlipSat

/-- The state of the generator: its words, and how many of them have been given out since they
    were last renewed. -/
structure Twister where
  words : Array UInt32
  used : Nat
deriving Inhabited

namespace Twister

/-- The number of words of the state. -/
def size : Nat := 624

/-- The word at a place of the state. -/
def word (words : Array UInt32) (i : Nat) : UInt32 := words.getD i (0 : UInt32)

/-- Each word of the first filling is computed from the one before it. -/
def fill (seed : UInt32) : Array UInt32 :=
  (List.range (size - 1)).foldl
    (fun (words : Array UInt32) i =>
      let previous := word words i
      words.push ((1812433253 : UInt32) * (previous ^^^ (previous >>> 30)) + UInt32.ofNat (i + 1)))
    #[seed]

/-- The place after `i` when words `1` to `623` are visited in a ring: past the end, word `0` is
    set to the last word first. -/
def advance (words : Array UInt32) (i : Nat) : Array UInt32 × Nat :=
  if i + 1 < size then (words, i + 1)
  else (words.setIfInBounds 0 (word words (size - 1)), 1)

/-- Mixes the words of the key into the state, `steps` times; `j` is the place in the key. -/
def mixKey (key : Array UInt32) : Nat → Array UInt32 → Nat → Nat → Array UInt32 × Nat
  | 0, words, i, _ => (words, i)
  | steps + 1, words, i, j =>
    let previous := word words (i - 1)
    let mixed := (word words i ^^^ ((previous ^^^ (previous >>> 30)) * 1664525)) + word key j +
      UInt32.ofNat j
    let (words, i) := advance (words.setIfInBounds i mixed) i
    mixKey key steps words i (if j + 1 < key.size then j + 1 else 0)

/-- Mixes the places of the words into the state, `steps` times. -/
def mixPlaces : Nat → Array UInt32 → Nat → Array UInt32
  | 0, words, _ => words
  | steps + 1, words, i =>
    let previous := word words (i - 1)
    let mixed := (word words i ^^^ ((previous ^^^ (previous >>> 30)) * 1566083941)) -
      UInt32.ofNat i
    let (words, i) := advance (words.setIfInBounds i mixed) i
    mixPlaces steps words i

/-- The 32 bit words of a number, the least significant first; `fuel` bounds their number. -/
def keyWords : Nat → Nat → List UInt32
  | 0, _ => []
  | fuel + 1, n =>
    UInt32.ofNat n :: if n < Nat.pow 2 32 then [] else keyWords fuel (n / Nat.pow 2 32)

/-- The generator seeded by the size of an integer. -/
def ofSeed (seed : Int) : Twister :=
  let n := seed.natAbs
  let key := (keyWords (n.log2 / 32 + 1) n).toArray
  let (words, i) := mixKey key (max size key.size) (fill 19650218) 1 0
  ⟨(mixPlaces (size - 1) words i).setIfInBounds 0 0x80000000, size⟩

/-- Renews all words of the state, in place and in order. -/
def renew (words : Array UInt32) : Array UInt32 :=
  (List.range size).foldl
    (fun (words : Array UInt32) i =>
      let joined := (word words i &&& 0x80000000) ||| (word words ((i + 1) % size) &&& 0x7FFFFFFF)
      let twist : UInt32 := if joined &&& 1 = 0 then 0 else 0x9908B0DF
      words.setIfInBounds i (word words ((i + 397) % size) ^^^ (joined >>> 1) ^^^ twist))
    words

/-- Spreads the bits of a word of the state before it is given out. -/
def temper (y : UInt32) : UInt32 :=
  let y := y ^^^ (y >>> 11)
  let y := y ^^^ ((y <<< 7) &&& 0x9D2C5680)
  let y := y ^^^ ((y <<< 15) &&& 0xEFC60000)
  y ^^^ (y >>> 18)

/-- The next word. -/
def next (t : Twister) : UInt32 × Twister :=
  let t := if t.used < size then t else ⟨renew t.words, 0⟩
  (temper (word t.words t.used), ⟨t.words, t.used + 1⟩)

/-- A number of `k` random bits, taken from as many words as needed, the least significant word
    first; of the last word the upper bits are used. `fuel` bounds the number of words. -/
def bitsFrom : Nat → Twister → Nat → Nat × Twister
  | 0, t, _ => (0, t)
  | fuel + 1, t, k =>
    let (w, t) := t.next
    if k ≤ 32 then (w.toNat >>> (32 - k), t)
    else
      let (rest, t) := bitsFrom fuel t (k - 32)
      (w.toNat + rest * Nat.pow 2 32, t)

def bits (t : Twister) (k : Nat) : Nat × Twister := bitsFrom (k / 32 + 1) t k

/-- Draws numbers of `k` bits until one is below `n`. -/
def belowFrom (k : Nat) {n : Nat} [Nonempty (Fin n)] (t : Twister) : Fin n × Twister :=
  Id.run (repeatM (fun t =>
    let (r, t) := t.bits k
    if hr : r < n then pure (.inr (⟨r, hr⟩, t)) else pure (.inl t)) t)

/-- A number that is small enough is taken, and after any other one the next is drawn. -/
theorem belowFrom_eq (k : Nat) {n : Nat} [Nonempty (Fin n)] (t : Twister) :
    belowFrom (n := n) k t =
      if hr : (t.bits k).1 < n then (⟨_, hr⟩, (t.bits k).2) else belowFrom k (t.bits k).2 := by
  unfold belowFrom
  rw [repeatM_eq_of_monadTail]
  unfold repeatM.body
  split <;> simp [*]

/-- A number below `n`: numbers with as many bits as `n` are drawn until one is small enough. Each
    draw succeeds with probability one half or more. -/
def below (t : Twister) (n : Nat) (h : 0 < n) : Fin n × Twister :=
  have : Nonempty (Fin n) := ⟨⟨0, h⟩⟩
  belowFrom (n.log2 + 1) t

end Twister

end FlipSat
