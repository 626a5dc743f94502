/-! SHA-256 over byte lists, as the secure hash standard defines it. -/

set_option autoImplicit false

namespace Sha256

def roundConstants : List UInt32 :=
  [0x428a2f98, 0x71374491, 0xb5c0fbcf, 0xe9b5dba5, 0x3956c25b, 0x59f111f1, 0x923f82a4, 0xab1c5ed5,
   0xd807aa98, 0x12835b01, 0x243185be, 0x550c7dc3, 0x72be5d74, 0x80deb1fe, 0x9bdc06a7, 0xc19bf174,
   0xe49b69c1, 0xefbe4786, 0x0fc19dc6, 0x240ca1cc, 0x2de92c6f, 0x4a7484aa, 0x5cb0a9dc, 0x76f988da,
   0x983e5152, 0xa831c66d, 0xb00327c8, 0xbf597fc7, 0xc6e00bf3, 0xd5a79147, 0x06ca6351, 0x14292967,
   0x27b70a85, 0x2e1b2138, 0x4d2c6dfc, 0x53380d13, 0x650a7354, 0x766a0abb, 0x81c2c92e, 0x92722c85,
   0xa2bfe8a1, 0xa81a664b, 0xc24b8b70, 0xc76c51a3, 0xd192e819, 0xd6990624, 0xf40e3585, 0x106aa070,
   0x19a4c116, 0x1e376c08, 0x2748774c, 0x34b0bcb5, 0x391c0cb3, 0x4ed8aa4a, 0x5b9cca4f, 0x682e6ff3,
   0x748f82ee, 0x78a5636f, 0x84c87814, 0x8cc70208, 0x90befffa, 0xa4506ceb, 0xbef9a3f7, 0xc67178f2]

/-- The eight words of the chaining value. -/
structure Chaining where
  a : UInt32
  b : UInt32
  c : UInt32
  d : UInt32
  e : UInt32
  f : UInt32
  g : UInt32
  h : UInt32

def initial : Chaining :=
  ⟨0x6a09e667, 0xbb67ae85, 0x3c6ef372, 0xa54ff53a, 0x510e527f, 0x9b05688c, 0x1f83d9ab, 0x5be0cd19⟩

def rotateRight (word count : UInt32) : UInt32 := (word >>> count) ||| (word <<< (32 - count))

def scheduleWord (previous : List UInt32) : UInt32 :=
  -- The schedule is kept newest first.
  let old := previous.getD 14 0
  let recent := previous.getD 1 0
  let low := rotateRight old 7 ^^^ rotateRight old 18 ^^^ (old >>> 3)
  let high := rotateRight recent 17 ^^^ rotateRight recent 19 ^^^ (recent >>> 10)
  previous.getD 15 0 + low + previous.getD 6 0 + high

def extendSchedule : Nat → List UInt32 → List UInt32
  | 0, words => words
  | count + 1, words => extendSchedule count (scheduleWord words :: words)

def round (state : Chaining) (constant word : UInt32) : Chaining :=
  let sumE := rotateRight state.e 6 ^^^ rotateRight state.e 11 ^^^ rotateRight state.e 25
  let choice := (state.e &&& state.f) ^^^ (~~~state.e &&& state.g)
  let first := state.h + sumE + choice + constant + word
  let sumA := rotateRight state.a 2 ^^^ rotateRight state.a 13 ^^^ rotateRight state.a 22
  let majority := (state.a &&& state.b) ^^^ (state.a &&& state.c) ^^^ (state.b &&& state.c)
  ⟨first + (sumA + majority), state.a, state.b, state.c, state.d + first, state.e, state.f, state.g⟩

def compress (state : Chaining) (block : List UInt32) : Chaining :=
  let schedule := (extendSchedule 48 block.reverse).reverse
  let final := (roundConstants.zip schedule).foldl (fun state step => round state step.1 step.2) state
  ⟨state.a + final.a, state.b + final.b, state.c + final.c, state.d + final.d,
    state.e + final.e, state.f + final.f, state.g + final.g, state.h + final.h⟩

def bigEndian (count value : Nat) : List UInt8 :=
  (List.range count).map fun index => UInt8.ofNat (value >>> (8 * (count - 1 - index)))

def pad (message : List UInt8) : List UInt8 :=
  message ++ 0x80 :: List.replicate ((119 - message.length % 64) % 64) 0 ++
    bigEndian 8 (8 * message.length)

def words : List UInt8 → List UInt32
  | first :: second :: third :: fourth :: rest =>
      UInt32.ofNat (((first.toNat * 256 + second.toNat) * 256 + third.toNat) * 256 + fourth.toNat) ::
        words rest
  | _ => []

def blocks : Nat → List UInt32 → Chaining → Chaining
  | 0, _, state => state
  | count + 1, message, state => blocks count (message.drop 16) (compress state (message.take 16))

def Chaining.bytes (state : Chaining) : List UInt8 :=
  [state.a, state.b, state.c, state.d, state.e, state.f, state.g, state.h].flatMap
    fun word => bigEndian 4 word.toNat

def hash (message : List UInt8) : List UInt8 :=
  let padded := pad message
  (blocks (padded.length / 64) (words padded) initial).bytes

theorem length_hash (message : List UInt8) : (hash message).length = 32 := by
  simp [hash, Chaining.bytes, bigEndian]

example : hash [97, 98, 99] =
    [0xba, 0x78, 0x16, 0xbf, 0x8f, 0x01, 0xcf, 0xea, 0x41, 0x41, 0x40, 0xde, 0x5d, 0xae, 0x22, 0x23,
     0xb0, 0x03, 0x61, 0xa3, 0x96, 0x17, 0x7a, 0x9c, 0xb4, 0x10, 0xff, 0x61, 0xf2, 0x00, 0x15, 0xad] :=
  by decide +kernel

end Sha256
