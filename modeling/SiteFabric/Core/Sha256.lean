import SiteFabric.Core.Generation

/-! The content hash, as the source streams it.
A hasher holds the chaining words, the bytes of an unfinished block and the
count of bytes seen. Words are 32-bit and additions wrap; the count is 64-bit
and so is its product by eight. -/

namespace SiteFabric.Sha256

def roundConstants : List UInt32 :=
  [0x428a2f98, 0x71374491, 0xb5c0fbcf, 0xe9b5dba5, 0x3956c25b, 0x59f111f1,
   0x923f82a4, 0xab1c5ed5, 0xd807aa98, 0x12835b01, 0x243185be, 0x550c7dc3,
   0x72be5d74, 0x80deb1fe, 0x9bdc06a7, 0xc19bf174, 0xe49b69c1, 0xefbe4786,
   0x0fc19dc6, 0x240ca1cc, 0x2de92c6f, 0x4a7484aa, 0x5cb0a9dc, 0x76f988da,
   0x983e5152, 0xa831c66d, 0xb00327c8, 0xbf597fc7, 0xc6e00bf3, 0xd5a79147,
   0x06ca6351, 0x14292967, 0x27b70a85, 0x2e1b2138, 0x4d2c6dfc, 0x53380d13,
   0x650a7354, 0x766a0abb, 0x81c2c92e, 0x92722c85, 0xa2bfe8a1, 0xa81a664b,
   0xc24b8b70, 0xc76c51a3, 0xd192e819, 0xd6990624, 0xf40e3585, 0x106aa070,
   0x19a4c116, 0x1e376c08, 0x2748774c, 0x34b0bcb5, 0x391c0cb3, 0x4ed8aa4a,
   0x5b9cca4f, 0x682e6ff3, 0x748f82ee, 0x78a5636f, 0x84c87814, 0x8cc70208,
   0x90befffa, 0xa4506ceb, 0xbef9a3f7, 0xc67178f2]

/-- The eight chaining words. -/
structure Words where
  a : UInt32
  b : UInt32
  c : UInt32
  d : UInt32
  e : UInt32
  f : UInt32
  g : UInt32
  h : UInt32

def initialWords : Words :=
  ⟨0x6a09e667, 0xbb67ae85, 0x3c6ef372, 0xa54ff53a, 0x510e527f, 0x9b05688c, 0x1f83d9ab, 0x5be0cd19⟩

def rotr (value bits : UInt32) : UInt32 := (value >>> bits) ||| (value <<< (32 - bits))

/-- The sixteen big-endian words of a block. -/
def blockWords : List UInt8 → List UInt32
  | b0 :: b1 :: b2 :: b3 :: rest =>
    ((b0.toUInt32 <<< 24) ||| (b1.toUInt32 <<< 16) ||| (b2.toUInt32 <<< 8) ||| b3.toUInt32) ::
      blockWords rest
  | _ => []

/-- The later words of the schedule; `window` holds the last sixteen, oldest first. -/
def expand : Nat → List UInt32 → List UInt32
  | 0, _ => []
  | n + 1, window =>
    let w15 := window.getD 1 0
    let w2 := window.getD 14 0
    let s0 := rotr w15 7 ^^^ rotr w15 18 ^^^ (w15 >>> 3)
    let s1 := rotr w2 17 ^^^ rotr w2 19 ^^^ (w2 >>> 10)
    let next := window.getD 0 0 + s0 + window.getD 9 0 + s1
    next :: expand n (window.tail ++ [next])

def step (s : Words) (input : UInt32 × UInt32) : Words :=
  let s1 := rotr s.e 6 ^^^ rotr s.e 11 ^^^ rotr s.e 25
  let choose := (s.e &&& s.f) ^^^ (~~~s.e &&& s.g)
  let temp1 := s.h + s1 + choose + input.1 + input.2
  let s0 := rotr s.a 2 ^^^ rotr s.a 13 ^^^ rotr s.a 22
  let majority := (s.a &&& s.b) ^^^ (s.a &&& s.c) ^^^ (s.b &&& s.c)
  let temp2 := s0 + majority
  ⟨temp1 + temp2, s.a, s.b, s.c, s.d + temp1, s.e, s.f, s.g⟩

def compress (s : Words) (block : List UInt8) : Words :=
  let input := blockWords block
  let schedule := input ++ expand 48 input
  let r := (roundConstants.zip schedule).foldl step s
  ⟨s.a + r.a, s.b + r.b, s.c + r.c, s.d + r.d, s.e + r.e, s.f + r.f, s.g + r.g, s.h + r.h⟩

structure Hasher where
  words : Words := initialWords
  buffer : List UInt8 := []
  totalBytes : UInt64 := 0

/-- Compresses as many whole blocks as asked for, keeping the rest. -/
def absorb : Nat → Words → List UInt8 → Words × List UInt8
  | 0, words, data => (words, data)
  | n + 1, words, data => absorb n (compress words (data.take 64)) (data.drop 64)

def Hasher.update (s : Hasher) (data : List UInt8) : Hasher :=
  let pending := s.buffer ++ data
  let (words, buffer) := absorb (pending.length / 64) s.words pending
  { words, buffer, totalBytes := s.totalBytes + UInt64.ofNat data.length }

def bigEndian64 (n : UInt64) : List UInt8 :=
  [(n >>> 56).toUInt8, (n >>> 48).toUInt8, (n >>> 40).toUInt8, (n >>> 32).toUInt8,
   (n >>> 24).toUInt8, (n >>> 16).toUInt8, (n >>> 8).toUInt8, n.toUInt8]

def bigEndian32 (n : UInt32) : List UInt8 :=
  [(n >>> 24).toUInt8, (n >>> 16).toUInt8, (n >>> 8).toUInt8, n.toUInt8]

def Words.toDigest (w : Words) : Digest where
  bytes := bigEndian32 w.a ++ bigEndian32 w.b ++ bigEndian32 w.c ++ bigEndian32 w.d ++
    bigEndian32 w.e ++ bigEndian32 w.f ++ bigEndian32 w.g ++ bigEndian32 w.h
  size := by simp [bigEndian32]

/-- Padding: one marker, zeros until 56 bytes are buffered, then the bit length. -/
def Hasher.finish (s : Hasher) : Digest :=
  let bitLength := s.totalBytes * 8
  let marked := s.update [0x80]
  let padded := marked.update (List.replicate ((120 - marked.buffer.length) % 64) 0)
  (padded.update (bigEndian64 bitLength)).words.toDigest

def digestBytes (data : List UInt8) : Digest := (({} : Hasher).update data).finish

/-- The empty message. -/
example : (digestBytes []).bytes.take 4 = [0xe3, 0xb0, 0xc4, 0x42] := by decide +kernel

end SiteFabric.Sha256
