/-
# A pseudo-random generator of 32-bit words

The Mersenne twister of period `2 ^ 19937 - 1`.  Its state is a ring of 624 words
and the index of the next one to hand out; when all have been handed out the ring
is turned over, each word becoming a mixture of itself, its successor and the word
397 places on.  A seed is a list of words that are stirred into a fixed first state.
-/

namespace Recital

/-- The state of the generator. -/
structure Twister where
  ring : Array UInt32
  index : Nat

namespace Twister

/-- The number of words of the state. -/
def size : Nat := 624

/-- How far away the word lies that a word is mixed with. -/
def offset : Nat := 397

/-- A word of the ring, counted round it. -/
def word (ring : Array UInt32) (i : Nat) : UInt32 := ring.getD (i % size) 0

/-- What a word passes on to its successor while a seed is stirred in. -/
def stir (previous factor : UInt32) : UInt32 := (previous ^^^ (previous >>> 30)) * factor

/-- The ring that a single word starts. -/
def start (seed : UInt32) : Array UInt32 :=
  (List.range (size - 1)).foldl
    (fun ring i => ring.push (stir (word ring i) 1812433253 + UInt32.ofNat (i + 1))) #[seed]

/-- The place after `i` in a round of stirring.  Place 0 is left out, and takes the
last word over when the round comes back to it. -/
def advance (ring : Array UInt32) (i : Nat) : Array UInt32 × Nat :=
  if size ≤ i + 1 then (ring.setIfInBounds 0 (word ring (size - 1)), 1) else (ring, i + 1)

/-- One step of stirring a key in. -/
def stirKey (key : Array UInt32) (state : Array UInt32 × Nat) (step : Nat) : Array UInt32 × Nat :=
  let (ring, i) := state
  let j := step % key.size
  let mixed := word ring i ^^^ stir (word ring (i - 1)) 1664525
  advance (ring.setIfInBounds i (mixed + key.getD j 0 + UInt32.ofNat j)) i

/-- One step of the round that follows the key. -/
def stirAgain (state : Array UInt32 × Nat) (_step : Nat) : Array UInt32 × Nat :=
  let (ring, i) := state
  let mixed := word ring i ^^^ stir (word ring (i - 1)) 1566083941
  advance (ring.setIfInBounds i (mixed - UInt32.ofNat i)) i

/-- The generator that a key starts. -/
def ofKey (key : Array UInt32) : Twister :=
  let keyed := (List.range (max size key.size)).foldl (stirKey key) (start 19650218, 1)
  let (ring, _) := (List.range (size - 1)).foldl stirAgain keyed
  ⟨ring.setIfInBounds 0 0x80000000, size⟩

/-- The 32-bit words of a number, least significant first; `fuel` bounds their
number. -/
def wordsOf : (fuel n : Nat) → List UInt32
  | 0, _ => []
  | fuel + 1, n =>
    if n = 0 then [] else UInt32.ofNat (n % 0x100000000) :: wordsOf fuel (n / 0x100000000)

/-- The generator of a whole-number seed.  The sign of a seed does not count, and
zero is a key of one word. -/
def ofSeed (seed : Int) : Twister :=
  let n := seed.natAbs
  let key := wordsOf (n.log2 / 32 + 1) n
  ofKey (if key.isEmpty then #[0] else key.toArray)

/-- The mixture that takes the place of word `i` when the ring is turned over. -/
def turnWord (ring : Array UInt32) (i : Nat) : Array UInt32 :=
  let y := (word ring i &&& 0x80000000) ||| (word ring (i + 1) &&& 0x7FFFFFFF)
  let magic : UInt32 := if y &&& 1 = 0 then 0 else 0x9908B0DF
  ring.setIfInBounds i (word ring (i + offset) ^^^ (y >>> 1) ^^^ magic)

/-- The ring turned over. -/
def turn (ring : Array UInt32) : Array UInt32 := (List.range size).foldl turnWord ring

/-- The output that a word of the state gives. -/
def temper (y : UInt32) : UInt32 :=
  let y := y ^^^ (y >>> 11)
  let y := y ^^^ ((y <<< 7) &&& 0x9D2C5680)
  let y := y ^^^ ((y <<< 15) &&& 0xEFC60000)
  y ^^^ (y >>> 18)

/-- The next word. -/
def next (t : Twister) : UInt32 × Twister :=
  let t := if size ≤ t.index then ⟨turn t.ring, 0⟩ else t
  (temper (word t.ring t.index), { t with index := t.index + 1 })

/-- The next `k` random bits as a number, for `k` up to 32: the upper bits of the
next word. -/
def nextBits (t : Twister) (k : Nat) : Nat × Twister :=
  let (y, t) := t.next
  (y.toNat >>> (32 - k), t)

/-- A number below `n` by rejection: the first of at most `attempts` draws of
`bits` bits that is below `n`. -/
def below (n bits : Nat) : (attempts : Nat) → Twister → Nat × Twister
  | 0, t => (0, t)
  | attempts + 1, t =>
    let (r, t) := t.nextBits bits
    if r < n then (r, t) else below n bits attempts t

end Twister
end Recital
