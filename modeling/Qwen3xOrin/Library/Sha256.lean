import Mathlib.Algebra.Group.Nat.Defs
import Qwen3xOrin.Library.Streams

/-! The secure hash SHA-256 of the standard FIPS 180-4, on messages of whole bytes. -/

namespace Qwen3xOrin.Library.Sha256

section Functions

def rotr (bits x : UInt32) : UInt32 := x >>> bits ||| x <<< (32 - bits)

def ch (x y z : UInt32) : UInt32 := (x &&& y) ^^^ (~~~x &&& z)

def maj (x y z : UInt32) : UInt32 := (x &&& y) ^^^ (x &&& z) ^^^ (y &&& z)

def bigSigma0 (x : UInt32) : UInt32 := rotr 2 x ^^^ rotr 13 x ^^^ rotr 22 x

def bigSigma1 (x : UInt32) : UInt32 := rotr 6 x ^^^ rotr 11 x ^^^ rotr 25 x

def smallSigma0 (x : UInt32) : UInt32 := rotr 7 x ^^^ rotr 18 x ^^^ x >>> 3

def smallSigma1 (x : UInt32) : UInt32 := rotr 17 x ^^^ rotr 19 x ^^^ x >>> 10

def primes : List ℕ :=
  [2, 3, 5, 7, 11, 13, 17, 19, 23, 29, 31, 37, 41, 43, 47, 53, 59, 61, 67, 71, 73, 79, 83, 89, 97,
    101, 103, 107, 109, 113, 127, 131, 137, 139, 149, 151, 157, 163, 167, 173, 179, 181, 191, 193,
    197, 199, 211, 223, 227, 229, 233, 239, 241, 251, 257, 263, 269, 271, 277, 281, 283, 293, 307,
    311]

def constants : List UInt32 :=
  [0x428a2f98, 0x71374491, 0xb5c0fbcf, 0xe9b5dba5, 0x3956c25b, 0x59f111f1, 0x923f82a4, 0xab1c5ed5,
    0xd807aa98, 0x12835b01, 0x243185be, 0x550c7dc3, 0x72be5d74, 0x80deb1fe, 0x9bdc06a7, 0xc19bf174,
    0xe49b69c1, 0xefbe4786, 0x0fc19dc6, 0x240ca1cc, 0x2de92c6f, 0x4a7484aa, 0x5cb0a9dc, 0x76f988da,
    0x983e5152, 0xa831c66d, 0xb00327c8, 0xbf597fc7, 0xc6e00bf3, 0xd5a79147, 0x06ca6351, 0x14292967,
    0x27b70a85, 0x2e1b2138, 0x4d2c6dfc, 0x53380d13, 0x650a7354, 0x766a0abb, 0x81c2c92e, 0x92722c85,
    0xa2bfe8a1, 0xa81a664b, 0xc24b8b70, 0xc76c51a3, 0xd192e819, 0xd6990624, 0xf40e3585, 0x106aa070,
    0x19a4c116, 0x1e376c08, 0x2748774c, 0x34b0bcb5, 0x391c0cb3, 0x4ed8aa4a, 0x5b9cca4f, 0x682e6ff3,
    0x748f82ee, 0x78a5636f, 0x84c87814, 0x8cc70208, 0x90befffa, 0xa4506ceb, 0xbef9a3f7, 0xc67178f2]

-- The words are the first 32 bits of the fractional parts of the cube roots of the primes.
lemma constants_cubeRoots : (primes.zip constants).all (fun (prime, word) =>
    (List.range 7).any fun whole =>
      let root := whole * 2 ^ 32 + word.toNat
      root ^ 3 ≤ prime * 2 ^ 96 && prime * 2 ^ 96 < (root + 1) ^ 3) = true := by
  decide

end Functions

section Hash

structure Registers where
  a : UInt32
  b : UInt32
  c : UInt32
  d : UInt32
  e : UInt32
  f : UInt32
  g : UInt32
  h : UInt32
  deriving DecidableEq, Repr

def initialHash : Registers where
  a := 0x6a09e667
  b := 0xbb67ae85
  c := 0x3c6ef372
  d := 0xa54ff53a
  e := 0x510e527f
  f := 0x9b05688c
  g := 0x1f83d9ab
  h := 0x5be0cd19

def Registers.words (r : Registers) : List UInt32 := [r.a, r.b, r.c, r.d, r.e, r.f, r.g, r.h]

-- The same of the square roots of the first eight primes.
lemma initialHash_squareRoots : (primes.zip initialHash.words).all (fun (prime, word) =>
    (List.range 5).any fun whole =>
      let root := whole * 2 ^ 32 + word.toNat
      root ^ 2 ≤ prime * 2 ^ 64 && prime * 2 ^ 64 < (root + 1) ^ 2) = true := by
  decide

def blockWord (block : List UInt8) (t : ℕ) : UInt32 :=
  (block.getD (4 * t) 0).toUInt32 <<< 24 ||| (block.getD (4 * t + 1) 0).toUInt32 <<< 16 |||
    (block.getD (4 * t + 2) 0).toUInt32 <<< 8 ||| (block.getD (4 * t + 3) 0).toUInt32

-- The word at `t + 16` from those before it.
def scheduleWord (schedule : List UInt32) (t : ℕ) : UInt32 :=
  smallSigma1 (schedule.getD (t + 14) 0) + schedule.getD (t + 9) 0 +
    smallSigma0 (schedule.getD (t + 1) 0) + schedule.getD t 0

def messageSchedule (block : List UInt8) : List UInt32 :=
  (List.range 48).foldl (fun schedule t => schedule ++ [scheduleWord schedule t])
    ((List.range 16).map (blockWord block))

def round (r : Registers) (constant word : UInt32) : Registers :=
  let t₁ := r.h + bigSigma1 r.e + ch r.e r.f r.g + constant + word
  let t₂ := bigSigma0 r.a + maj r.a r.b r.c
  ⟨t₁ + t₂, r.a, r.b, r.c, r.d + t₁, r.e, r.f, r.g⟩

def compress (hash : Registers) (block : List UInt8) : Registers :=
  let schedule := messageSchedule block
  let r := (List.range 64).foldl
    (fun r t => round r (constants.getD t 0) (schedule.getD t 0)) hash
  ⟨r.a + hash.a, r.b + hash.b, r.c + hash.c, r.d + hash.d, r.e + hash.e, r.f + hash.f,
    r.g + hash.g, r.h + hash.h⟩

abbrev blockBytes : ℕ := 64

def zeroCount (length : ℕ) : ℕ := (119 - length % blockBytes) % blockBytes

def lengthBytes (length : ℕ) : List UInt8 :=
  (List.range 8).map fun i => UInt8.ofNat (8 * length / 256 ^ (7 - i))

def padding (length : ℕ) : List UInt8 :=
  0x80 :: List.replicate (zeroCount length) 0 ++ lengthBytes length

def wordBytes (word : UInt32) : List UInt8 :=
  [(word >>> 24).toUInt8, (word >>> 16).toUInt8, (word >>> 8).toUInt8, word.toUInt8]

def sha256 (message : List UInt8) : List UInt8 :=
  (absorb compress blockBytes initialHash (message ++ padding message.length)).words.flatMap
    wordBytes

lemma padded_length (length : ℕ) : (length + (padding length).length) % blockBytes = 0 := by
  simp only [padding, zeroCount, lengthBytes, blockBytes, List.length_cons, List.length_append,
    List.length_replicate, List.length_map, List.length_range]
  omega

example : sha256 [0x61, 0x62, 0x63] =
    [0xba, 0x78, 0x16, 0xbf, 0x8f, 0x01, 0xcf, 0xea, 0x41, 0x41, 0x40, 0xde, 0x5d, 0xae, 0x22, 0x23,
      0xb0, 0x03, 0x61, 0xa3, 0x96, 0x17, 0x7a, 0x9c, 0xb4, 0x10, 0xff, 0x61, 0xf2, 0x00, 0x15,
      0xad] := by
  decide +kernel

end Hash

end Qwen3xOrin.Library.Sha256
