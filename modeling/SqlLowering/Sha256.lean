/-!
The secure hash of 256 bits. A message is padded to blocks of sixty-four bytes, each block is
extended to a schedule of sixty-four words, and a state of eight words is mixed with it in
sixty-four rounds.
-/

namespace SqlLowering.Sha256

/-- The constants of the rounds. -/
def roundConstants : Array UInt32 :=
  #[0x428a2f98, 0x71374491, 0xb5c0fbcf, 0xe9b5dba5, 0x3956c25b, 0x59f111f1, 0x923f82a4, 0xab1c5ed5,
    0xd807aa98, 0x12835b01, 0x243185be, 0x550c7dc3, 0x72be5d74, 0x80deb1fe, 0x9bdc06a7, 0xc19bf174,
    0xe49b69c1, 0xefbe4786, 0x0fc19dc6, 0x240ca1cc, 0x2de92c6f, 0x4a7484aa, 0x5cb0a9dc, 0x76f988da,
    0x983e5152, 0xa831c66d, 0xb00327c8, 0xbf597fc7, 0xc6e00bf3, 0xd5a79147, 0x06ca6351, 0x14292967,
    0x27b70a85, 0x2e1b2138, 0x4d2c6dfc, 0x53380d13, 0x650a7354, 0x766a0abb, 0x81c2c92e, 0x92722c85,
    0xa2bfe8a1, 0xa81a664b, 0xc24b8b70, 0xc76c51a3, 0xd192e819, 0xd6990624, 0xf40e3585, 0x106aa070,
    0x19a4c116, 0x1e376c08, 0x2748774c, 0x34b0bcb5, 0x391c0cb3, 0x4ed8aa4a, 0x5b9cca4f, 0x682e6ff3,
    0x748f82ee, 0x78a5636f, 0x84c87814, 0x8cc70208, 0x90befffa, 0xa4506ceb, 0xbef9a3f7, 0xc67178f2]

/-- The working state. -/
structure State where
  a : UInt32
  b : UInt32
  c : UInt32
  d : UInt32
  e : UInt32
  f : UInt32
  g : UInt32
  h : UInt32

namespace State

/-- The state before the first block. -/
def initial : State :=
  ⟨0x6a09e667, 0xbb67ae85, 0x3c6ef372, 0xa54ff53a, 0x510e527f, 0x9b05688c, 0x1f83d9ab, 0x5be0cd19⟩

/-- The words of a state. -/
def words (s : State) : List UInt32 :=
  [s.a, s.b, s.c, s.d, s.e, s.f, s.g, s.h]

/-- The sum of two states, word by word. -/
def add (s t : State) : State :=
  ⟨s.a + t.a, s.b + t.b, s.c + t.c, s.d + t.d, s.e + t.e, s.f + t.f, s.g + t.g, s.h + t.h⟩

end State

/-- Rotation to the right. -/
def rotate (x n : UInt32) : UInt32 :=
  (x >>> n) ||| (x <<< (32 - n))

/-- One round, with the word of the schedule and the constant of the round already added up. -/
def round (s : State) (word : UInt32) : State :=
  let sum1 := rotate s.e 6 ^^^ rotate s.e 11 ^^^ rotate s.e 25
  let choice := (s.e &&& s.f) ^^^ (~~~s.e &&& s.g)
  let first := s.h + sum1 + choice + word
  let sum0 := rotate s.a 2 ^^^ rotate s.a 13 ^^^ rotate s.a 22
  let majority := (s.a &&& s.b) ^^^ (s.a &&& s.c) ^^^ (s.b &&& s.c)
  ⟨first + sum0 + majority, s.a, s.b, s.c, s.d + first, s.e, s.f, s.g⟩

/-- The next word of a schedule from the sixteen before it. -/
def nextWord (schedule : Array UInt32) : UInt32 :=
  let back (n : Nat) : UInt32 := schedule.getD (schedule.size - n) 0
  let sigma0 := rotate (back 15) 7 ^^^ rotate (back 15) 18 ^^^ (back 15 >>> 3)
  let sigma1 := rotate (back 2) 17 ^^^ rotate (back 2) 19 ^^^ (back 2 >>> 10)
  back 16 + sigma0 + back 7 + sigma1

/-- A block of sixteen words extended to sixty-four. -/
def schedule (block : Array UInt32) : Array UInt32 :=
  (List.range 48).foldl (fun words _ => words.push (nextWord words)) block

/-- The state after a block. -/
def compress (s : State) (block : Array UInt32) : State :=
  let words := (schedule block).zipWith (· + ·) roundConstants
  s.add (words.foldl round s)

/-- The bytes of a number, `count` of them, the most significant first. -/
def bigEndian (count n : Nat) : List UInt8 :=
  (List.range count).map fun i => (n / Nat.pow 256 (count - 1 - i)).toUInt8

/-- A message with a bit set behind it, zeros up to the last eight bytes of a block, and its length
in bits. -/
def pad (message : List UInt8) : List UInt8 :=
  let zeros := (55 + 64 - message.length % 64) % 64
  message ++ 0x80 :: List.replicate zeros 0 ++ bigEndian 8 (8 * message.length)

/-- Words of four bytes, the most significant first. -/
def wordsOf : List UInt8 → List UInt32
  | a :: b :: c :: d :: rest =>
    (a.toUInt32 <<< 24 ||| b.toUInt32 <<< 16 ||| c.toUInt32 <<< 8 ||| d.toUInt32) :: wordsOf rest
  | _ => []

/-- The state after the blocks of sixteen words, with as much fuel as there are words. -/
def absorb : Nat → State → List UInt32 → State
  | 0, s, _ => s
  | _, s, [] => s
  | fuel + 1, s, words => absorb fuel (compress s (words.take 16).toArray) (words.drop 16)

/-- The hash of a message, as eight words. -/
def hash (message : List UInt8) : List UInt32 :=
  let words := wordsOf (pad message)
  (absorb words.length State.initial words).words

/-- A word as eight hexadecimal digits. -/
def hexWord (word : UInt32) : List Char :=
  (List.range 8).map fun i => Nat.digitChar (word.toNat / Nat.pow 16 (7 - i) % 16)

/-- The hash of the bytes of a text, in hexadecimal. -/
def hexDigest (text : String) : String :=
  String.ofList ((hash text.toUTF8.toList).flatMap hexWord)

end SqlLowering.Sha256
