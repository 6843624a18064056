/-!
# The digest SHA-256

The bytes are padded to whole blocks of sixteen words; each block is mixed into a state of eight
words in sixty-four rounds; the digest is the last state.

## What is here

* `Sha256.State`, `Sha256.compress`: the state, and one block mixed into it;
* `Sha256.padding`: what follows the data, so that blocks are whole and lengths are told apart;
* `Sha256.digest`: the thirty-two bytes of the digest (`length_digest`).
-/

set_option autoImplicit false

namespace ToolPack
namespace Sha256

/-- The eight words that blocks are mixed into. -/
structure State where
  a : UInt32
  b : UInt32
  c : UInt32
  d : UInt32
  e : UInt32
  f : UInt32
  g : UInt32
  h : UInt32
  deriving DecidableEq

/-- The first thirty-two bits of the fractions of the square roots of the first eight primes. -/
def initial : State :=
  ⟨0x6a09e667, 0xbb67ae85, 0x3c6ef372, 0xa54ff53a, 0x510e527f, 0x9b05688c, 0x1f83d9ab, 0x5be0cd19⟩

/-- The first thirty-two bits of the fractions of the cube roots of the first sixty-four primes. -/
def roundConstants : List UInt32 :=
  [0x428a2f98, 0x71374491, 0xb5c0fbcf, 0xe9b5dba5, 0x3956c25b, 0x59f111f1, 0x923f82a4, 0xab1c5ed5,
   0xd807aa98, 0x12835b01, 0x243185be, 0x550c7dc3, 0x72be5d74, 0x80deb1fe, 0x9bdc06a7, 0xc19bf174,
   0xe49b69c1, 0xefbe4786, 0x0fc19dc6, 0x240ca1cc, 0x2de92c6f, 0x4a7484aa, 0x5cb0a9dc, 0x76f988da,
   0x983e5152, 0xa831c66d, 0xb00327c8, 0xbf597fc7, 0xc6e00bf3, 0xd5a79147, 0x06ca6351, 0x14292967,
   0x27b70a85, 0x2e1b2138, 0x4d2c6dfc, 0x53380d13, 0x650a7354, 0x766a0abb, 0x81c2c92e, 0x92722c85,
   0xa2bfe8a1, 0xa81a664b, 0xc24b8b70, 0xc76c51a3, 0xd192e819, 0xd6990624, 0xf40e3585, 0x106aa070,
   0x19a4c116, 0x1e376c08, 0x2748774c, 0x34b0bcb5, 0x391c0cb3, 0x4ed8aa4a, 0x5b9cca4f, 0x682e6ff3,
   0x748f82ee, 0x78a5636f, 0x84c87814, 0x8cc70208, 0x90befffa, 0xa4506ceb, 0xbef9a3f7, 0xc67178f2]

/-- A word turned to the right. -/
def rotate (x n : UInt32) : UInt32 := (x >>> n) ||| (x <<< (32 - n))

/-- One round: a word and a constant are mixed into the state. -/
def mix (s : State) (word : UInt32) : State :=
  let choice := (s.e &&& s.f) ^^^ ((~~~s.e) &&& s.g)
  let majority := (s.a &&& s.b) ^^^ (s.a &&& s.c) ^^^ (s.b &&& s.c)
  let t := s.h + (rotate s.e 6 ^^^ rotate s.e 11 ^^^ rotate s.e 25) + choice + word
  let u := (rotate s.a 2 ^^^ rotate s.a 13 ^^^ rotate s.a 22) + majority
  ⟨t + u, s.a, s.b, s.c, s.d + t, s.e, s.f, s.g⟩

/-- The word that follows sixteen words of the schedule. -/
def nextWord (words : List UInt32) : UInt32 :=
  let x := words.getD 1 0
  let y := words.getD 14 0
  words.getD 0 0 + (rotate x 7 ^^^ rotate x 18 ^^^ (x >>> 3)) + words.getD 9 0
    + (rotate y 17 ^^^ rotate y 19 ^^^ (y >>> 10))

/-- A round with the first of sixteen words, which makes room for the next one. -/
def step (work : State × List UInt32) (constant : UInt32) : State × List UInt32 :=
  (mix work.1 (work.2.headD 0 + constant), work.2.tail ++ [nextWord work.2])

/-- Adds two states word by word. -/
def State.add (s t : State) : State :=
  ⟨s.a + t.a, s.b + t.b, s.c + t.c, s.d + t.d, s.e + t.e, s.f + t.f, s.g + t.g, s.h + t.h⟩

/-- The state with a block of sixteen words mixed in. -/
def compress (s : State) (block : List UInt32) : State :=
  s.add (roundConstants.foldl step (s, block)).1

/-! ## Blocks -/

/-- A number in eight bytes, the most significant first. -/
def bytes64 (n : UInt64) : List UInt8 :=
  [(n >>> 56).toUInt8, (n >>> 48).toUInt8, (n >>> 40).toUInt8, (n >>> 32).toUInt8,
   (n >>> 24).toUInt8, (n >>> 16).toUInt8, (n >>> 8).toUInt8, n.toUInt8]

/-- What follows data of a length: a bit that ends them, bits that fill the last block, and the
number of bits of the data. -/
def padding (length : Nat) : List UInt8 :=
  0x80 :: List.replicate ((119 - length % 64) % 64) 0 ++ bytes64 (8 * length).toUInt64

/-- The words of a row of bytes, the most significant byte first. -/
def words : List UInt8 → List UInt32
  | a :: b :: c :: d :: rest =>
    (a.toUInt32 <<< 24 ||| b.toUInt32 <<< 16 ||| c.toUInt32 <<< 8 ||| d.toUInt32) :: words rest
  | _ => []

/-- A state, and the words of the block that is not whole yet, the last one first. -/
structure Absorbing where
  state : State
  pending : List UInt32

/-- Takes in one word; a whole block is mixed into the state. -/
def Absorbing.absorb (s : Absorbing) (word : UInt32) : Absorbing :=
  if s.pending.length = 15 then ⟨compress s.state (word :: s.pending).reverse, []⟩
  else ⟨s.state, word :: s.pending⟩

/-- The state after all data. -/
def finalState (data : ByteArray) : State :=
  ((words (data.data.toList ++ padding data.size)).foldl Absorbing.absorb ⟨initial, []⟩).state

/-- The bytes of a word, the most significant first. -/
def wordBytes (w : UInt32) : List UInt8 :=
  [(w >>> 24).toUInt8, (w >>> 16).toUInt8, (w >>> 8).toUInt8, w.toUInt8]

/-- The bytes of a state. -/
def State.bytes (s : State) : List UInt8 :=
  [s.a, s.b, s.c, s.d, s.e, s.f, s.g, s.h].flatMap wordBytes

/-- The digest of data. -/
def digest (data : ByteArray) : List UInt8 := (finalState data).bytes

/-- A digest has thirty-two bytes. -/
theorem length_digest (data : ByteArray) : (digest data).length = 32 := rfl

end Sha256
end ToolPack
