import PackedAttestation.Bytes

/-! # The SHA-2 digests

SHA-256, SHA-384 and SHA-512 are one construction over two word sizes.  A message
is padded to whole blocks, each block is expanded to one word for each round, and
the rounds stir these words into a state of eight words, which is then added to
the state before the block.
-/
namespace PackedAttestation.Sha2

/-- The construction over words of `w` bits: its round constants, and the rotations
(for `mix0` and `mix1` two rotations and a shift) of its four mixing functions. -/
structure Rounds (w : Nat) where
  constants : List (BitVec w)
  sum0 : Nat × Nat × Nat
  sum1 : Nat × Nat × Nat
  mix0 : Nat × Nat × Nat
  mix1 : Nat × Nat × Nat

/-- Eight working words. -/
structure State (w : Nat) where
  a : BitVec w
  b : BitVec w
  c : BitVec w
  d : BitVec w
  e : BitVec w
  f : BitVec w
  g : BitVec w
  h : BitVec w

namespace State

variable {w : Nat}

/-- Word by word addition. -/
def add (s t : State w) : State w :=
  ⟨s.a + t.a, s.b + t.b, s.c + t.c, s.d + t.d, s.e + t.e, s.f + t.f, s.g + t.g, s.h + t.h⟩

/-- The eight words in order. -/
def words (s : State w) : List (BitVec w) :=
  [s.a, s.b, s.c, s.d, s.e, s.f, s.g, s.h]

end State

variable {w : Nat}

/-- The exclusive or of three rotations. -/
def rotations (r : Nat × Nat × Nat) (x : BitVec w) : BitVec w :=
  x.rotateRight r.1 ^^^ x.rotateRight r.2.1 ^^^ x.rotateRight r.2.2

/-- The exclusive or of two rotations and a shift. -/
def rotationsAndShift (r : Nat × Nat × Nat) (x : BitVec w) : BitVec w :=
  x.rotateRight r.1 ^^^ x.rotateRight r.2.1 ^^^ (x >>> r.2.2)

/-- The word that follows a window of sixteen words of the expanded block. -/
def nextWord (r : Rounds w) (window : List (BitVec w)) : BitVec w :=
  rotationsAndShift r.mix1 (window.getD 14 0) + window.getD 9 0 +
    rotationsAndShift r.mix0 (window.getD 1 0) + window.getD 0 0

/-- The first `n` words of the expansion of a window of sixteen words. -/
def expand (r : Rounds w) : Nat → List (BitVec w) → List (BitVec w)
  | 0, _ => []
  | _ + 1, [] => []
  | n + 1, word :: window =>
    word :: expand r n (window ++ [nextWord r (word :: window)])

/-- One round with its constant and its word of the expanded block. -/
def round (r : Rounds w) (s : State w) (kw : BitVec w × BitVec w) : State w :=
  let choice := (s.e &&& s.f) ^^^ (~~~s.e &&& s.g)
  let majority := (s.a &&& s.b) ^^^ (s.a &&& s.c) ^^^ (s.b &&& s.c)
  let t1 := s.h + rotations r.sum1 s.e + choice + kw.1 + kw.2
  let t2 := rotations r.sum0 s.a + majority
  ⟨t1 + t2, s.a, s.b, s.c, s.d + t1, s.e, s.f, s.g⟩

/-- Stirs one block of sixteen words into the state. -/
def compress (r : Rounds w) (s : State w) (block : List (BitVec w)) : State w :=
  let schedule := expand r r.constants.length block
  s.add ((r.constants.zip schedule).foldl (round r) s)

/-- Cuts a list into pieces of `n`, at most `fuel` of them. -/
def pieces {α : Type} (n : Nat) : (fuel : Nat) → List α → List (List α)
  | 0, _ => []
  | fuel + 1, xs => if xs.isEmpty then [] else xs.take n :: pieces n fuel (xs.drop n)

/-- The padding of a message of `n` bytes: the bit one, as many zeros as needed, and the
length of the message in bits, in `w / 4` bytes. -/
def padding (w n : Nat) : Bytes :=
  let block := 2 * w
  let counter := w / 4
  let zeros := (2 * block - 1 - counter - n % block) % block
  0x80 :: (List.replicate zeros 0 ++ Bytes.ofNatFixed counter (8 * n))

/-- The words of a block, most significant byte first. -/
def wordsOf (w : Nat) (block : Bytes) : List (BitVec w) :=
  (pieces (w / 8) 16 block).map fun bs => BitVec.ofNat w (Bytes.toNat bs)

/-- The eight words of state after a message, as bytes. -/
def hash (r : Rounds w) (start : State w) (message : Bytes) : Bytes :=
  let padded := message ++ padding w message.length
  let blocks := pieces (2 * w) (padded.length / (2 * w)) padded
  let final := blocks.foldl (fun s block => compress r s (wordsOf w block)) start
  final.words.flatMap fun word => Bytes.ofNatFixed (w / 8) word.toNat

/-- The first 64 bits of the fractional parts of the cube roots of the first eighty
primes. -/
def cubeRoots : List Nat :=
  [0x428a2f98d728ae22, 0x7137449123ef65cd, 0xb5c0fbcfec4d3b2f, 0xe9b5dba58189dbbc,
   0x3956c25bf348b538, 0x59f111f1b605d019, 0x923f82a4af194f9b, 0xab1c5ed5da6d8118,
   0xd807aa98a3030242, 0x12835b0145706fbe, 0x243185be4ee4b28c, 0x550c7dc3d5ffb4e2,
   0x72be5d74f27b896f, 0x80deb1fe3b1696b1, 0x9bdc06a725c71235, 0xc19bf174cf692694,
   0xe49b69c19ef14ad2, 0xefbe4786384f25e3, 0x0fc19dc68b8cd5b5, 0x240ca1cc77ac9c65,
   0x2de92c6f592b0275, 0x4a7484aa6ea6e483, 0x5cb0a9dcbd41fbd4, 0x76f988da831153b5,
   0x983e5152ee66dfab, 0xa831c66d2db43210, 0xb00327c898fb213f, 0xbf597fc7beef0ee4,
   0xc6e00bf33da88fc2, 0xd5a79147930aa725, 0x06ca6351e003826f, 0x142929670a0e6e70,
   0x27b70a8546d22ffc, 0x2e1b21385c26c926, 0x4d2c6dfc5ac42aed, 0x53380d139d95b3df,
   0x650a73548baf63de, 0x766a0abb3c77b2a8, 0x81c2c92e47edaee6, 0x92722c851482353b,
   0xa2bfe8a14cf10364, 0xa81a664bbc423001, 0xc24b8b70d0f89791, 0xc76c51a30654be30,
   0xd192e819d6ef5218, 0xd69906245565a910, 0xf40e35855771202a, 0x106aa07032bbd1b8,
   0x19a4c116b8d2d0c8, 0x1e376c085141ab53, 0x2748774cdf8eeb99, 0x34b0bcb5e19b48a8,
   0x391c0cb3c5c95a63, 0x4ed8aa4ae3418acb, 0x5b9cca4f7763e373, 0x682e6ff3d6b2b8a3,
   0x748f82ee5defb2fc, 0x78a5636f43172f60, 0x84c87814a1f0ab72, 0x8cc702081a6439ec,
   0x90befffa23631e28, 0xa4506cebde82bde9, 0xbef9a3f7b2c67915, 0xc67178f2e372532b,
   0xca273eceea26619c, 0xd186b8c721c0c207, 0xeada7dd6cde0eb1e, 0xf57d4f7fee6ed178,
   0x06f067aa72176fba, 0x0a637dc5a2c898a6, 0x113f9804bef90dae, 0x1b710b35131c471b,
   0x28db77f523047d84, 0x32caab7b40c72493, 0x3c9ebe0a15c9bebc, 0x431d67c49c100d4c,
   0x4cc5d4becb3e42b6, 0x597f299cfc657e2a, 0x5fcb6fab3ad6faec, 0x6c44198c4a475817]

/-- The rounds over words of 32 bits. Their constants are the leading halves of the first
sixty-four of the eighty. -/
def rounds32 : Rounds 32 where
  constants := (cubeRoots.take 64).map fun k => BitVec.ofNat 32 (k >>> 32)
  sum0 := (2, 13, 22)
  sum1 := (6, 11, 25)
  mix0 := (7, 18, 3)
  mix1 := (17, 19, 10)

/-- The rounds over words of 64 bits. -/
def rounds64 : Rounds 64 where
  constants := cubeRoots.map (BitVec.ofNat 64)
  sum0 := (28, 34, 39)
  sum1 := (14, 18, 41)
  mix0 := (1, 8, 7)
  mix1 := (19, 61, 6)

/-- The first state of SHA-256. -/
def start256 : State 32 :=
  ⟨0x6a09e667, 0xbb67ae85, 0x3c6ef372, 0xa54ff53a,
   0x510e527f, 0x9b05688c, 0x1f83d9ab, 0x5be0cd19⟩

/-- The first state of SHA-384. -/
def start384 : State 64 :=
  ⟨0xcbbb9d5dc1059ed8, 0x629a292a367cd507, 0x9159015a3070dd17, 0x152fecd8f70e5939,
   0x67332667ffc00b31, 0x8eb44a8768581511, 0xdb0c2e0d64f98fa7, 0x47b5481dbefa4fa4⟩

/-- The first state of SHA-512. -/
def start512 : State 64 :=
  ⟨0x6a09e667f3bcc908, 0xbb67ae8584caa73b, 0x3c6ef372fe94f82b, 0xa54ff53a5f1d36f1,
   0x510e527fade682d1, 0x9b05688c2b3e6c1f, 0x1f83d9abfb41bd6b, 0x5be0cd19137e2179⟩

end PackedAttestation.Sha2

namespace PackedAttestation

/-- A member of the SHA-2 family. -/
inductive Digest where
  | sha256 | sha384 | sha512
deriving DecidableEq

namespace Digest

/-- The digest of a message. SHA-384 keeps six of the eight words. -/
def run : Digest → Bytes → Bytes
  | sha256, message => Sha2.hash Sha2.rounds32 Sha2.start256 message
  | sha384, message => (Sha2.hash Sha2.rounds64 Sha2.start384 message).take 48
  | sha512, message => Sha2.hash Sha2.rounds64 Sha2.start512 message

end Digest
end PackedAttestation
