/-! The hash of 256 bits that stands for a text of any length. -/

namespace Roster.Sha256

/-- The fractional parts of the cube roots of the first 64 primes, as words. -/
def roundWords : List UInt32 :=
  [
    0x428a2f98, 0x71374491, 0xb5c0fbcf, 0xe9b5dba5, 0x3956c25b, 0x59f111f1, 0x923f82a4, 0xab1c5ed5,
    0xd807aa98, 0x12835b01, 0x243185be, 0x550c7dc3, 0x72be5d74, 0x80deb1fe, 0x9bdc06a7, 0xc19bf174,
    0xe49b69c1, 0xefbe4786, 0x0fc19dc6, 0x240ca1cc, 0x2de92c6f, 0x4a7484aa, 0x5cb0a9dc, 0x76f988da,
    0x983e5152, 0xa831c66d, 0xb00327c8, 0xbf597fc7, 0xc6e00bf3, 0xd5a79147, 0x06ca6351, 0x14292967,
    0x27b70a85, 0x2e1b2138, 0x4d2c6dfc, 0x53380d13, 0x650a7354, 0x766a0abb, 0x81c2c92e, 0x92722c85,
    0xa2bfe8a1, 0xa81a664b, 0xc24b8b70, 0xc76c51a3, 0xd192e819, 0xd6990624, 0xf40e3585, 0x106aa070,
    0x19a4c116, 0x1e376c08, 0x2748774c, 0x34b0bcb5, 0x391c0cb3, 0x4ed8aa4a, 0x5b9cca4f, 0x682e6ff3,
    0x748f82ee, 0x78a5636f, 0x84c87814, 0x8cc70208, 0x90befffa, 0xa4506ceb, 0xbef9a3f7, 0xc67178f2
  ]

/-- The eight words of a hash under way. -/
structure State where
  a : UInt32
  b : UInt32
  c : UInt32
  d : UInt32
  e : UInt32
  f : UInt32
  g : UInt32
  h : UInt32
  deriving DecidableEq

/-- The fractional parts of the square roots of the first eight primes, as words. -/
def initial : State :=
  ⟨0x6a09e667, 0xbb67ae85, 0x3c6ef372, 0xa54ff53a, 0x510e527f, 0x9b05688c, 0x1f83d9ab, 0x5be0cd19⟩

/-- A word with its bits turned to the right. -/
def rotate (word : UInt32) (count : UInt32) : UInt32 := (word >>> count) ||| (word <<< (32 - count))

/-- A number as eight bytes, the highest first. -/
def lengthBytes (n : Nat) : List UInt8 :=
  [56, 48, 40, 32, 24, 16, 8, 0].map fun shift => UInt8.ofNat (n >>> shift)

/-- A message with a one bit, zeros and its length in bits behind it, in whole blocks. -/
def pad (message : List UInt8) : List UInt8 :=
  let zeros := (119 - message.length % 64) % 64
  message ++ 0x80 :: List.replicate zeros 0 ++ lengthBytes (message.length * 8)

/-- Padding ends where a block of 64 bytes ends. -/
theorem length_pad_mod (message : List UInt8) : (pad message).length % 64 = 0 := by
  -- The zeros fill what the message, the one bit and the length leave of the last block.
  simp only [pad, lengthBytes, List.length_append, List.length_cons, List.length_replicate,
    List.length_map, List.length_nil]
  omega

/-- The words of a block, four bytes each. -/
def words : List UInt8 → List UInt32
  | a :: b :: c :: d :: rest =>
    ((a.toUInt32 <<< 24) ||| (b.toUInt32 <<< 16) ||| (c.toUInt32 <<< 8) ||| d.toUInt32) ::
      words rest
  | _ => []

/-- The word that follows sixteen words of the schedule. -/
def nextWord (window : Array UInt32) : UInt32 :=
  let early := window[window.size - 15]?.getD 0
  let late := window[window.size - 2]?.getD 0
  let mixEarly := rotate early 7 ^^^ rotate early 18 ^^^ (early >>> 3)
  let mixLate := rotate late 17 ^^^ rotate late 19 ^^^ (late >>> 10)
  (window[window.size - 16]?.getD 0) + mixEarly + (window[window.size - 7]?.getD 0) + mixLate

/-- The sixteen words of a block and the 48 made from them. -/
def schedule (block : List UInt32) : Array UInt32 :=
  Nat.repeat (fun window => window.push (nextWord window)) 48 block.toArray

/-- One round, with a word of the schedule and one of the fixed words added together. -/
def turn (state : State) (input : UInt32) : State :=
  let ⟨a, b, c, d, e, f, g, h⟩ := state
  let mixE := rotate e 6 ^^^ rotate e 11 ^^^ rotate e 25
  let choice := (e &&& f) ^^^ (~~~e &&& g)
  let first := h + mixE + choice + input
  let mixA := rotate a 2 ^^^ rotate a 13 ^^^ rotate a 22
  let majority := (a &&& b) ^^^ (a &&& c) ^^^ (b &&& c)
  ⟨first + (mixA + majority), a, b, c, d + first, e, f, g⟩

/-- Two states added word by word. -/
def State.add (s t : State) : State :=
  ⟨s.a + t.a, s.b + t.b, s.c + t.c, s.d + t.d, s.e + t.e, s.f + t.f, s.g + t.g, s.h + t.h⟩

/-- The words of a state in order. -/
def State.toList (state : State) : List UInt32 :=
  [state.a, state.b, state.c, state.d, state.e, state.f, state.g, state.h]

/-- The state after a block has been worked in. -/
def compress (state : State) (block : List UInt8) : State :=
  let inputs := List.zipWith (· + ·) (schedule (words block)).toList roundWords
  state.add (inputs.foldl turn state)

/-- A list cut into pieces of 64. -/
def blocks (bytes : List UInt8) : List (List UInt8) :=
  if bytes.isEmpty then [] else bytes.take 64 :: blocks (bytes.drop 64)
termination_by bytes.length
decreasing_by
  -- A list that is not empty loses at least one byte.
  cases bytes with
  | nil => simp_all
  | cons => simp only [List.length_drop, List.length_cons]; omega

/-- A word as four bytes, the highest first. -/
def wordBytes (word : UInt32) : List UInt8 :=
  [24, 16, 8, 0].map fun (shift : UInt32) => (word >>> shift).toUInt8

/-- The hash of a message as 32 bytes. -/
def hash (message : List UInt8) : List UInt8 :=
  ((blocks (pad message)).foldl compress initial).toList.flatMap wordBytes

/-- A hash has 32 bytes, whatever the length of the message. -/
@[simp] theorem length_hash (message : List UInt8) : (hash message).length = 32 := by
  -- A state has eight words, and each word is four bytes.
  simp only [hash, State.toList, wordBytes, List.flatMap_cons, List.flatMap_nil, List.map_cons,
    List.map_nil, List.length_append, List.length_cons, List.length_nil]

end Roster.Sha256
