/-!
# The hash function SHA-256

The hash of a sequence of bytes, as FIPS 180-4 defines it: the bytes are padded to whole blocks of
sixteen words, and each block in turn is mixed into a chain of eight words by sixty-four rounds. A
round consumes one word of the message schedule; of the schedule, only the sixteen words that are
still needed are kept, the next one to consume at their head.

## Main definitions

* `Sha256.Chain` — the eight words that are handed from block to block
* `Sha256.compress` — mixes one block into the chain
* `Sha256.hash` — the chain after all blocks of the padded message
-/

namespace Boilerplate.Sha256

/-- The eight words that are handed from block to block. -/
structure Chain where
  a : UInt32
  b : UInt32
  c : UInt32
  d : UInt32
  e : UInt32
  f : UInt32
  g : UInt32
  h : UInt32
  deriving DecidableEq, Repr

/-- The chain before the first block. -/
def Chain.start : Chain :=
  ⟨0x6a09e667, 0xbb67ae85, 0x3c6ef372, 0xa54ff53a, 0x510e527f, 0x9b05688c, 0x1f83d9ab, 0x5be0cd19⟩

/-- The words of a chain, first word first. -/
def Chain.toList (x : Chain) : List UInt32 := [x.a, x.b, x.c, x.d, x.e, x.f, x.g, x.h]

/-- Two chains are added word by word, modulo two to the thirty-second. -/
def Chain.add (x y : Chain) : Chain :=
  ⟨x.a + y.a, x.b + y.b, x.c + y.c, x.d + y.d, x.e + y.e, x.f + y.f, x.g + y.g, x.h + y.h⟩

/-- The constants of the sixty-four rounds. -/
def roundConstants : List UInt32 :=
  [0x428a2f98, 0x71374491, 0xb5c0fbcf, 0xe9b5dba5, 0x3956c25b, 0x59f111f1, 0x923f82a4, 0xab1c5ed5,
    0xd807aa98, 0x12835b01, 0x243185be, 0x550c7dc3, 0x72be5d74, 0x80deb1fe, 0x9bdc06a7, 0xc19bf174,
    0xe49b69c1, 0xefbe4786, 0x0fc19dc6, 0x240ca1cc, 0x2de92c6f, 0x4a7484aa, 0x5cb0a9dc, 0x76f988da,
    0x983e5152, 0xa831c66d, 0xb00327c8, 0xbf597fc7, 0xc6e00bf3, 0xd5a79147, 0x06ca6351, 0x14292967,
    0x27b70a85, 0x2e1b2138, 0x4d2c6dfc, 0x53380d13, 0x650a7354, 0x766a0abb, 0x81c2c92e, 0x92722c85,
    0xa2bfe8a1, 0xa81a664b, 0xc24b8b70, 0xc76c51a3, 0xd192e819, 0xd6990624, 0xf40e3585, 0x106aa070,
    0x19a4c116, 0x1e376c08, 0x2748774c, 0x34b0bcb5, 0x391c0cb3, 0x4ed8aa4a, 0x5b9cca4f, 0x682e6ff3,
    0x748f82ee, 0x78a5636f, 0x84c87814, 0x8cc70208, 0x90befffa, 0xa4506ceb, 0xbef9a3f7, 0xc67178f2]

/-- A word rotated to the right by a number of places between one and thirty-one. -/
def rotateRight (x n : UInt32) : UInt32 := (x >>> n) ||| (x <<< (32 - n))

/-- The word of the schedule that follows sixteen given ones. -/
def scheduled (w0 w1 w9 w14 : UInt32) : UInt32 :=
  let s0 := rotateRight w1 7 ^^^ rotateRight w1 18 ^^^ (w1 >>> 3)
  let s1 := rotateRight w14 17 ^^^ rotateRight w14 19 ^^^ (w14 >>> 10)
  w0 + s0 + w9 + s1

/-- One round: mixes a word of the schedule and the constant of the round into the chain. -/
def Chain.round (x : Chain) (k w : UInt32) : Chain :=
  let s1 := rotateRight x.e 6 ^^^ rotateRight x.e 11 ^^^ rotateRight x.e 25
  let choice := (x.e &&& x.f) ^^^ (~~~x.e &&& x.g)
  let t1 := x.h + s1 + choice + k + w
  let s0 := rotateRight x.a 2 ^^^ rotateRight x.a 13 ^^^ rotateRight x.a 22
  let majority := (x.a &&& x.b) ^^^ (x.a &&& x.c) ^^^ (x.b &&& x.c)
  ⟨t1 + s0 + majority, x.a, x.b, x.c, x.d + t1, x.e, x.f, x.g⟩

/-- The rounds for the given constants, on a window of sixteen words of the schedule. -/
def rounds : List UInt32 → List UInt32 → Chain → Chain
  | k :: ks, w :: ws, x =>
    let next := scheduled w (ws.getD 0 0) (ws.getD 8 0) (ws.getD 13 0)
    rounds ks (ws ++ [next]) (x.round k w)
  | _, _, x => x

/-- Mixes one block of sixteen words into the chain. -/
def compress (x : Chain) (block : List UInt32) : Chain := (rounds roundConstants block x).add x

/-- The words of a sequence of bytes, four bytes to a word, the highest byte first. -/
def words : List UInt8 → List UInt32
  | p :: q :: r :: s :: rest =>
    ((p.toUInt32 <<< 24) ||| (q.toUInt32 <<< 16) ||| (r.toUInt32 <<< 8) ||| s.toUInt32) ::
      words rest
  | _ => []

/-- How many zero bytes stand between the end mark of a message and its length. -/
def paddingZeros (size : Nat) : Nat := (119 - size % 64) % 64

/-- The length of a message in bits, as eight bytes, the highest first. -/
def lengthBytes (size : Nat) : List UInt8 :=
  [56, 48, 40, 32, 24, 16, 8, 0].map fun shift => UInt8.ofNat ((size * 8) >>> shift)

/-- A message with its end mark, zeros and its length, which together fill whole blocks. -/
def pad (message : List UInt8) : List UInt8 :=
  message ++ 0x80 :: (List.replicate (paddingZeros message.length) 0 ++ lengthBytes message.length)

/-- Mixes all whole blocks of a sequence of words into the chain. -/
def absorb (x : Chain) (ws : List UInt32) : Chain :=
  if _h : (ws.take 16).length = 16 then absorb (compress x (ws.take 16)) (ws.drop 16) else x
termination_by ws.length
decreasing_by simp only [List.length_take] at _h; simp only [List.length_drop]; omega

/-- The chain after all blocks of the padded message. -/
def hash (message : List UInt8) : Chain := absorb .start (words (pad message))

end Boilerplate.Sha256
