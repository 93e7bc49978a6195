import GlobeView.Breathing
import GlobeView.Double.Arithmetic

/-! # The generator of marker phases

A 64-bit seed is expanded to the 32 bytes that a generator starts from: a linear congruential
sequence is stepped eight times and each state is scrambled into one little-endian word.

The generator is four 64-bit words stirred by additions, rotations and exclusive ors (xoshiro256++).  A phase is the
top of a word as a fraction of a full turn. -/

namespace GlobeView.Random

/-! ### Seeds -/

/-- `x` turned left by `k` bits. -/
def rotateLeft32 (x : UInt32) (k : UInt32) : UInt32 := (x <<< k) ||| (x >>> (32 - k))

/-- `x` turned left by `k` bits. -/
def rotateLeft64 (x : UInt64) (k : UInt64) : UInt64 := (x <<< k) ||| (x >>> (64 - k))

/-- `x` turned right by `k` bits, for any `k`. -/
def rotateRight32 (x : UInt32) (k : UInt32) : UInt32 :=
  if k = 0 then x else (x >>> k) ||| (x <<< (32 - k))

/-- One step of the congruential sequence. -/
def stepSeed (s : UInt64) : UInt64 := s * 6364136223846793005 + 11634580027462260723

/-- The word that a state is scrambled into. -/
def scramble (s : UInt64) : UInt32 :=
  rotateRight32 (((s >>> 18) ^^^ s) >>> 27).toUInt32 (s >>> 59).toUInt32

/-- The first `n` words of a seed. -/
def seedWords : Nat → UInt64 → List UInt32
  | 0, _ => []
  | n + 1, s =>
    let s := stepSeed s
    scramble s :: seedWords n s

/-- The eight words that a generator starts from. -/
def expandSeed (seed : UInt64) : List UInt32 := seedWords 8 seed

/-- Two words as one, the lower first. -/
def joinWords (low high : UInt32) : UInt64 := low.toUInt64 ||| (high.toUInt64 <<< 32)

/-! ### The generator -/

/-- The state of the generator. -/
structure Xoshiro where
  s0 : UInt64
  s1 : UInt64
  s2 : UInt64
  s3 : UInt64
deriving DecidableEq, Repr

namespace Xoshiro

/-- The generator that starts from a seed. -/
def ofSeed (seed : UInt64) : Xoshiro :=
  match expandSeed seed with
  | [a, b, c, d, e, f, g, h] => ⟨joinWords a b, joinWords c d, joinWords e f, joinWords g h⟩
  | _ => ⟨0, 0, 0, 0⟩

/-- The next word. -/
def next (x : Xoshiro) : UInt64 × Xoshiro :=
  let result := rotateLeft64 (x.s0 + x.s3) 23 + x.s0
  let s2 := x.s2 ^^^ x.s0
  let s3 := x.s3 ^^^ x.s1
  let s1 := x.s1 ^^^ s2
  let s0 := x.s0 ^^^ s3
  (result, ⟨s0, s1, s2 ^^^ (x.s1 <<< 17), rotateLeft64 s3 45⟩)

/-- The number in `[0, 1)` with the top 52 bits of a word as its fraction. -/
def unitFraction (word : UInt64) : Float :=
  Float.ofBits ((word >>> 12) ||| 0x3FF0000000000000) - 1.0

/-- The next phase, in `[0, tau)`; words whose product is rounded up to a full turn are passed over,
at most `fuel` of them. -/
def drawPhase : Nat → Xoshiro → Float × Xoshiro
  | 0, x => (0, x)
  | fuel + 1, x =>
    let (word, x) := x.next
    let phase := unitFraction word * Scalar.tau + 0.0
    if phase < Scalar.tau then (phase, x) else drawPhase fuel x

instance : PhaseSource Xoshiro Float := ⟨drawPhase 64⟩

end Xoshiro
end GlobeView.Random
