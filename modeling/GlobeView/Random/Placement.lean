import GlobeView.Random.Xoshiro

/-! # Drawing places

Places are drawn by a stream cipher run over a counter: each block of sixteen words is the sum of an
initial state and twelve rounds of stirring it (ChaCha12).  The seed is the key, the nonce is zero.

A place among `n` is the whole part of a random word's share of `n`.  So that every place is equally
likely, words whose remainder falls in the last, incomplete stretch are passed over. -/

namespace GlobeView.Random

/-! ### The generator -/

/-- The sixteen words of a block. -/
abbrev Block := Vector UInt32 16

/-- Stirs four words of a block. -/
def quarterRound (a b c d : Fin 16) (s : Block) : Block :=
  let s := s.set a (s.get a + s.get b)
  let s := s.set d (rotateLeft32 (s.get d ^^^ s.get a) 16)
  let s := s.set c (s.get c + s.get d)
  let s := s.set b (rotateLeft32 (s.get b ^^^ s.get c) 12)
  let s := s.set a (s.get a + s.get b)
  let s := s.set d (rotateLeft32 (s.get d ^^^ s.get a) 8)
  let s := s.set c (s.get c + s.get d)
  s.set b (rotateLeft32 (s.get b ^^^ s.get c) 7)

/-- Two rounds: down the columns, then along the diagonals. -/
def doubleRound (s : Block) : Block :=
  s |> quarterRound 0 4 8 12
    |> quarterRound 1 5 9 13
    |> quarterRound 2 6 10 14
    |> quarterRound 3 7 11 15
    |> quarterRound 0 5 10 15
    |> quarterRound 1 6 11 12
    |> quarterRound 2 7 8 13
    |> quarterRound 3 4 9 14

/-- The block of a counter. -/
def chachaBlock (key : Vector UInt32 8) (counter : UInt64) : Block :=
  let start : Block :=
    #v[0x61707865, 0x3320646e, 0x79622d32, 0x6b206574,
       key.get 0, key.get 1, key.get 2, key.get 3, key.get 4, key.get 5, key.get 6, key.get 7,
       counter.toUInt32, (counter >>> 32).toUInt32, 0, 0]
  start.zipWith (· + ·) (Nat.repeat doubleRound 6 start)

/-- The state of the generator. -/
structure ChaCha where
  key : Vector UInt32 8
  /-- The counter of the next block. -/
  counter : UInt64
  /-- Words of the current block that were not used yet. -/
  words : List UInt32

namespace ChaCha

/-- The generator that starts from a seed. -/
def ofSeed (seed : UInt64) : ChaCha :=
  let words := expandSeed seed
  ⟨Vector.ofFn fun i => words.getD i 0, 0, []⟩

/-- The next two words as one, the lower first. -/
def next (g : ChaCha) : UInt64 × ChaCha :=
  match g.words with
  | low :: high :: rest => (joinWords low high, { g with words := rest })
  | _ =>
    let block := chachaBlock g.key g.counter
    (joinWords (block.get 0) (block.get 1),
      { g with counter := g.counter + 1, words := block.toList.drop 2 })

end ChaCha

/-! ### Places -/

/-- A generator of places among `n`. -/
class IndexSource (ρ : Type) (n : Nat) where
  draw : ρ → Fin n × ρ

/-- The greatest remainder that is accepted for a range of `n` places, `0 < n < 2 ^ 64`: one less
than `n` shifted up to the highest bit of a word. -/
def acceptedRemainder (n : Nat) : UInt64 := (n.toUInt64 <<< (63 - n.log2).toUInt64) - 1

/-- The place that a word stands for, unless it has to be passed over.  The remainder is the product
of words, which wraps. -/
def place? (n : Nat) (h : 0 < n) (word : UInt64) : Option (Fin n) :=
  if word * n.toUInt64 ≤ acceptedRemainder n then
    some ⟨word.toNat * n / wordRange, by
      have hw : word.toNat < wordRange := word.toNat_lt
      exact Nat.div_lt_of_lt_mul (Nat.mul_lt_mul_of_pos_right hw h)⟩
  else none

/-- The next place; at most `fuel` words are passed over. -/
def drawPlace (n : Nat) (h : 0 < n) : Nat → ChaCha → Fin n × ChaCha
  | 0, g => (⟨0, h⟩, g)
  | fuel + 1, g =>
    let (word, g) := g.next
    match place? n h word with
    | some i => (i, g)
    | none => drawPlace n h fuel g

end GlobeView.Random
