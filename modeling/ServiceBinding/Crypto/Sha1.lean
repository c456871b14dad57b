import ServiceBinding.Crypto.Digest

/-!
SHA-1: a message is padded to blocks of sixteen words; each block is stretched to eighty words,
which are mixed one after the other into a state of five.
-/
namespace ServiceBinding.Crypto.Sha1

/-- The five words of the state. -/
structure State where
  a : UInt32
  b : UInt32
  c : UInt32
  d : UInt32
  e : UInt32

/-- The state before the first block. -/
def State.initial : State := ⟨0x67452301, 0xEFCDAB89, 0x98BADCFE, 0x10325476, 0xC3D2E1F0⟩

def rotate (w : UInt32) (n : UInt32) : UInt32 := (w <<< n) ||| (w >>> (32 - n))

/-- The message with a one bit, zeros, and its length in bits. -/
def pad (message : Bytes) : Bytes :=
  let zeros := (55 + 64 - message.length % 64) % 64
  message ++ [0x80] ++ List.replicate zeros 0 ++ Bytes.word 8 (8 * message.length)

def words : Bytes → List UInt32
  | a :: b :: c :: d :: rest => UInt32.ofNat (Bytes.value [a, b, c, d]) :: words rest
  | _ => []

/-- The next word of a stretched block, from those before it, the latest first. -/
def nextWord (before : List UInt32) : UInt32 :=
  rotate (before.getD 2 0 ^^^ before.getD 7 0 ^^^ before.getD 13 0 ^^^ before.getD 15 0) 1

/-- The words of a block stretched by some more, the latest first. -/
def stretch : Nat → List UInt32 → List UInt32
  | 0, before => before
  | n + 1, before => stretch n (nextWord before :: before)

/-- The mixing function and constant of a round. -/
def mixing (round : Nat) (s : State) : UInt32 × UInt32 :=
  if round < 20 then ((s.b &&& s.c) ||| (~~~s.b &&& s.d), 0x5A827999)
  else if round < 40 then (s.b ^^^ s.c ^^^ s.d, 0x6ED9EBA1)
  else if round < 60 then ((s.b &&& s.c) ||| (s.b &&& s.d) ||| (s.c &&& s.d), 0x8F1BBCDC)
  else (s.b ^^^ s.c ^^^ s.d, 0xCA62C1D6)

/-- Mixes one word into the state. -/
def State.mix (s : State) (word : UInt32 × Nat) : State :=
  let (f, k) := mixing word.2 s
  ⟨rotate s.a 5 + f + s.e + k + word.1, s.a, rotate s.b 30, s.c, s.d⟩

/-- Mixes one block into the state. -/
def State.absorb (s : State) (block : Bytes) : State :=
  let t := (stretch 64 (words block).reverse).reverse.zipIdx.foldl State.mix s
  ⟨s.a + t.a, s.b + t.b, s.c + t.c, s.d + t.d, s.e + t.e⟩

/-- Mixes some blocks of a padded message into the state. -/
def absorbBlocks : Nat → State → Bytes → State
  | 0, s, _ => s
  | n + 1, s, padded => absorbBlocks n (s.absorb (padded.take 64)) (padded.drop 64)

def State.octets (s : State) : Bytes :=
  [s.a, s.b, s.c, s.d, s.e].flatMap fun w => Bytes.word 4 w.toNat

def hash (message : Bytes) : Bytes :=
  let padded := pad message
  (absorbBlocks (padded.length / 64) .initial padded).octets

theorem length_hash (message : Bytes) : (hash message).length = digestLength := by
  simp [hash, State.octets]

end ServiceBinding.Crypto.Sha1

namespace ServiceBinding.Crypto

/-- The digest that key stores are written with. -/
def Digest.sha1 : Digest := ⟨Sha1.hash, Sha1.length_hash⟩

end ServiceBinding.Crypto
