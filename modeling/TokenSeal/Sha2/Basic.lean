import TokenSeal.Text.Basic

/-!
# The SHA-2 family

FIPS 180-4. The members of the family share one compression function, which works on words of 32 or
64 bits; a member is a value of `Sha2` that fixes the word size, the rotation amounts, the round
constants, the initial chaining value and how much of the last chaining value is the digest. The
constants are bits of square and cube roots of primes, and those of the 32-bit member are the upper
halves of those of the 64-bit members.
-/

namespace TokenSeal

/-- Eight words: the working variables and the chaining value. -/
structure Sha2.State (w : Nat) where
  a : BitVec w
  b : BitVec w
  c : BitVec w
  d : BitVec w
  e : BitVec w
  f : BitVec w
  g : BitVec w
  h : BitVec w
  deriving DecidableEq

/-- A member of the family. -/
structure Sha2 where
  /-- Octets in a word. -/
  wordSize : Nat
  /-- Rotations of the two functions on working variables. -/
  bigSigma0 : Nat × Nat × Nat
  bigSigma1 : Nat × Nat × Nat
  /-- Two rotations and a shift of the two functions on the message schedule. -/
  smallSigma0 : Nat × Nat × Nat
  smallSigma1 : Nat × Nat × Nat
  /-- One constant for each round. -/
  roundConstants : List (BitVec (8 * wordSize))
  /-- The chaining value before the first block. -/
  initial : Sha2.State (8 * wordSize)
  /-- Octets in a digest. -/
  digestSize : Nat
  wordSize_pos : 0 < wordSize := by decide
  /-- A digest is part of a chaining value. -/
  digestSize_le : digestSize ≤ 8 * wordSize := by decide

namespace Sha2

/-! ### Octets and words -/

/-- The last `size` octets of a number, most significant first. -/
def bigEndian (size n : Nat) : Bytes :=
  (List.range size).map fun i => .ofNat (n >>> (8 * (size - 1 - i)))

/-- The number that octets write, most significant first. -/
def ofBigEndian (bs : Bytes) : Nat := bs.foldl (fun n b => n * 256 + b.toNat) 0

@[simp] theorem length_bigEndian (size n : Nat) : (bigEndian size n).length = size := by
  simp [bigEndian]

/-- The first `count` parts of `size` octets each. -/
def parts (size : Nat) : Nat → Bytes → List Bytes
  | 0, _ => []
  | count + 1, bs => bs.take size :: parts size count (bs.drop size)

/-- Parts are cut off one after the other. -/
theorem parts_add (size m n : Nat) (bs : Bytes) :
    parts size (m + n) bs = parts size m bs ++ parts size n (bs.drop (m * size)) := by
  induction m generalizing bs with
  | zero => rw [Nat.zero_add, Nat.zero_mul, List.drop_zero, parts, List.nil_append]
  | succ m ih =>
    rw [Nat.succ_add, parts, parts, ih, List.drop_drop, List.cons_append, Nat.succ_mul,
      Nat.add_comm size]

/-- What comes behind the parts does not matter. -/
theorem parts_append {size n : Nat} {bs cs : Bytes} (hn : n * size ≤ bs.length) :
    parts size n (bs ++ cs) = parts size n bs := by
  induction n generalizing bs with
  | zero => rfl
  | succ n ih =>
    rw [Nat.succ_mul] at hn
    have hsize : size ≤ bs.length := by omega
    rw [parts, parts, List.take_append_of_le_length hsize, List.drop_append_of_le_length hsize,
      ih (by rw [List.length_drop]; omega)]

namespace State

/-- The eight words in order. -/
def words {w : Nat} (s : State w) : List (BitVec w) := [s.a, s.b, s.c, s.d, s.e, s.f, s.g, s.h]

/-- Eight words from a list, zero where the list is short. -/
def ofWords {w : Nat} (ws : List (BitVec w)) : State w :=
  ⟨ws.getD 0 0, ws.getD 1 0, ws.getD 2 0, ws.getD 3 0, ws.getD 4 0, ws.getD 5 0, ws.getD 6 0,
    ws.getD 7 0⟩

/-- Word by word addition. -/
def add {w : Nat} (s t : State w) : State w :=
  ⟨s.a + t.a, s.b + t.b, s.c + t.c, s.d + t.d, s.e + t.e, s.f + t.f, s.g + t.g, s.h + t.h⟩

end State

/-! ### The compression function -/

variable (h : Sha2)

/-- Octets in a block: sixteen words. -/
def blockSize : Nat := 16 * h.wordSize

theorem blockSize_pos : 0 < h.blockSize := by
  have := h.wordSize_pos
  unfold blockSize
  omega

/-- Exclusive or of three rotations of a word. -/
def rotations {w : Nat} (r : Nat × Nat × Nat) (x : BitVec w) : BitVec w :=
  x.rotateRight r.1 ^^^ x.rotateRight r.2.1 ^^^ x.rotateRight r.2.2

/-- Exclusive or of two rotations and a shift of a word. -/
def rotationsShift {w : Nat} (r : Nat × Nat × Nat) (x : BitVec w) : BitVec w :=
  x.rotateRight r.1 ^^^ x.rotateRight r.2.1 ^^^ (x >>> r.2.2)

/-- The next word of the schedule, from the words so far, newest first. -/
def nextWord (ws : List (BitVec (8 * h.wordSize))) : BitVec (8 * h.wordSize) :=
  rotationsShift h.smallSigma1 (ws.getD 1 0) + ws.getD 6 0 +
    rotationsShift h.smallSigma0 (ws.getD 14 0) + ws.getD 15 0

/-- The schedule grown by `n` words, newest first. -/
def grow (ws : List (BitVec (8 * h.wordSize))) : Nat → List (BitVec (8 * h.wordSize))
  | 0 => ws
  | n + 1 => grow (h.nextWord ws :: ws) n

/-- The message schedule of a block: its sixteen words, then one word for each further round. -/
def schedule (block : Bytes) : List (BitVec (8 * h.wordSize)) :=
  let first := (parts h.wordSize 16 block).map fun p => BitVec.ofNat _ (ofBigEndian p)
  (h.grow first.reverse (h.roundConstants.length - 16)).reverse

/-- One round, with its constant and its word of the schedule. -/
def round (s : State (8 * h.wordSize)) (k w : BitVec (8 * h.wordSize)) :
    State (8 * h.wordSize) :=
  let t1 := s.h + rotations h.bigSigma1 s.e + ((s.e &&& s.f) ^^^ (~~~s.e &&& s.g)) + k + w
  let t2 := rotations h.bigSigma0 s.a + ((s.a &&& s.b) ^^^ (s.a &&& s.c) ^^^ (s.b &&& s.c))
  ⟨t1 + t2, s.a, s.b, s.c, s.d + t1, s.e, s.f, s.g⟩

/-- The chaining value after a block. -/
def compress (s : State (8 * h.wordSize)) (block : Bytes) : State (8 * h.wordSize) :=
  s.add ((h.roundConstants.zip (h.schedule block)).foldl (fun t kw => h.round t kw.1 kw.2) s)

/-- The digest in a chaining value. -/
def output (s : State (8 * h.wordSize)) : Bytes :=
  (s.words.flatMap fun w => bigEndian h.wordSize w.toNat).take h.digestSize

@[simp] theorem length_output (s : State (8 * h.wordSize)) :
    (h.output s).length = h.digestSize := by
  have := h.digestSize_le
  simp only [output, State.words, List.flatMap_cons, List.flatMap_nil, List.length_take,
    List.length_append, length_bigEndian, List.length_nil]
  omega

/-! ### Whole messages -/

/-- Octets of the length field that ends a padded message: two words. -/
def lengthSize : Nat := 2 * h.wordSize

/-- What follows a message of `total` octets: a one bit, zeros up to the length field of a block,
and the message's length in bits. -/
def padding (total : Nat) : Bytes :=
  0x80 :: List.replicate
    ((2 * h.blockSize - 1 - h.lengthSize - total % h.blockSize) % h.blockSize) 0 ++
    bigEndian h.lengthSize (8 * total)

/-- The blocks of a padded message. -/
def blocks (m : Bytes) : List Bytes :=
  let padded := m ++ h.padding m.length
  parts h.blockSize (padded.length / h.blockSize) padded

/-- The digest of a message. -/
def digest (m : Bytes) : Bytes := h.output ((h.blocks m).foldl h.compress h.initial)

@[simp] theorem length_digest (m : Bytes) : (h.digest m).length = h.digestSize :=
  h.length_output _

/-! ### The members -/

/-- The first 64 bits of the fractional parts of the cube roots of the first 80 primes. -/
def cubeRoots : List (BitVec 64) :=
  [0x428A2F98D728AE22, 0x7137449123EF65CD, 0xB5C0FBCFEC4D3B2F, 0xE9B5DBA58189DBBC,
    0x3956C25BF348B538, 0x59F111F1B605D019, 0x923F82A4AF194F9B, 0xAB1C5ED5DA6D8118,
    0xD807AA98A3030242, 0x12835B0145706FBE, 0x243185BE4EE4B28C, 0x550C7DC3D5FFB4E2,
    0x72BE5D74F27B896F, 0x80DEB1FE3B1696B1, 0x9BDC06A725C71235, 0xC19BF174CF692694,
    0xE49B69C19EF14AD2, 0xEFBE4786384F25E3, 0x0FC19DC68B8CD5B5, 0x240CA1CC77AC9C65,
    0x2DE92C6F592B0275, 0x4A7484AA6EA6E483, 0x5CB0A9DCBD41FBD4, 0x76F988DA831153B5,
    0x983E5152EE66DFAB, 0xA831C66D2DB43210, 0xB00327C898FB213F, 0xBF597FC7BEEF0EE4,
    0xC6E00BF33DA88FC2, 0xD5A79147930AA725, 0x06CA6351E003826F, 0x142929670A0E6E70,
    0x27B70A8546D22FFC, 0x2E1B21385C26C926, 0x4D2C6DFC5AC42AED, 0x53380D139D95B3DF,
    0x650A73548BAF63DE, 0x766A0ABB3C77B2A8, 0x81C2C92E47EDAEE6, 0x92722C851482353B,
    0xA2BFE8A14CF10364, 0xA81A664BBC423001, 0xC24B8B70D0F89791, 0xC76C51A30654BE30,
    0xD192E819D6EF5218, 0xD69906245565A910, 0xF40E35855771202A, 0x106AA07032BBD1B8,
    0x19A4C116B8D2D0C8, 0x1E376C085141AB53, 0x2748774CDF8EEB99, 0x34B0BCB5E19B48A8,
    0x391C0CB3C5C95A63, 0x4ED8AA4AE3418ACB, 0x5B9CCA4F7763E373, 0x682E6FF3D6B2B8A3,
    0x748F82EE5DEFB2FC, 0x78A5636F43172F60, 0x84C87814A1F0AB72, 0x8CC702081A6439EC,
    0x90BEFFFA23631E28, 0xA4506CEBDE82BDE9, 0xBEF9A3F7B2C67915, 0xC67178F2E372532B,
    0xCA273ECEEA26619C, 0xD186B8C721C0C207, 0xEADA7DD6CDE0EB1E, 0xF57D4F7FEE6ED178,
    0x06F067AA72176FBA, 0x0A637DC5A2C898A6, 0x113F9804BEF90DAE, 0x1B710B35131C471B,
    0x28DB77F523047D84, 0x32CAAB7B40C72493, 0x3C9EBE0A15C9BEBC, 0x431D67C49C100D4C,
    0x4CC5D4BECB3E42B6, 0x597F299CFC657E2A, 0x5FCB6FAB3AD6FAEC, 0x6C44198C4A475817]

/-- The first 64 bits of the fractional parts of the square roots of the first eight primes. -/
def squareRoots : List (BitVec 64) :=
  [0x6A09E667F3BCC908, 0xBB67AE8584CAA73B, 0x3C6EF372FE94F82B, 0xA54FF53A5F1D36F1,
    0x510E527FADE682D1, 0x9B05688C2B3E6C1F, 0x1F83D9ABFB41BD6B, 0x5BE0CD19137E2179]

/-- The same of the next eight primes. -/
def laterSquareRoots : List (BitVec 64) :=
  [0xCBBB9D5DC1059ED8, 0x629A292A367CD507, 0x9159015A3070DD17, 0x152FECD8F70E5939,
    0x67332667FFC00B31, 0x8EB44A8768581511, 0xDB0C2E0D64F98FA7, 0x47B5481DBEFA4FA4]

/-- The upper half of a 64-bit word. -/
def upperHalf (x : BitVec 64) : BitVec 32 := x.extractLsb' 32 32

/-- SHA-256. -/
def sha256 : Sha2 where
  wordSize := 4
  bigSigma0 := (2, 13, 22)
  bigSigma1 := (6, 11, 25)
  smallSigma0 := (7, 18, 3)
  smallSigma1 := (17, 19, 10)
  roundConstants := (cubeRoots.take 64).map upperHalf
  initial := .ofWords (squareRoots.map upperHalf)
  digestSize := 32

/-- SHA-512. -/
def sha512 : Sha2 where
  wordSize := 8
  bigSigma0 := (28, 34, 39)
  bigSigma1 := (14, 18, 41)
  smallSigma0 := (1, 8, 7)
  smallSigma1 := (19, 61, 6)
  roundConstants := cubeRoots
  initial := .ofWords squareRoots
  digestSize := 64

/-- SHA-384: SHA-512 from another initial chaining value, cut short. -/
def sha384 : Sha2 :=
  { sha512 with
    initial := .ofWords laterSquareRoots
    digestSize := 48
    digestSize_le := by decide }

end Sha2

end TokenSeal
