import TupleStore.Bytes

/-!
# SHA-1

The 20-byte digest of a byte string: the message is padded to whole blocks of 64
bytes, and each block is mixed into five words in 80 rounds.
-/

namespace TupleStore.Digest

namespace Sha1

structure State where
  a : UInt32 := 0x67452301
  b : UInt32 := 0xefcdab89
  c : UInt32 := 0x98badcfe
  d : UInt32 := 0x10325476
  e : UInt32 := 0xc3d2e1f0

def rotateLeft (count : UInt32) (word : UInt32) : UInt32 :=
  word <<< count ||| word >>> (32 - count)

/-- The message with a mark, zeros up to eight bytes before a block's end, and its bit length. -/
def pad (message : Bytes) : Bytes :=
  let zeros := (64 + 55 - message.length % 64) % 64
  message ++ 0x80 :: List.replicate zeros 0 ++ Bytes.bigEndian 8 (8 * message.length)

def blocks (size : Nat) : (count : Nat) → Bytes → List Bytes
  | 0, _ => []
  | count + 1, bytes => bytes.take size :: blocks size count (bytes.drop size)

/-- Appends `count` words to a schedule, whose latest word stands first. -/
def extend : (count : Nat) → List UInt32 → List UInt32
  | 0, words => words
  | count + 1, words =>
      let word := words.getD 2 0 ^^^ words.getD 7 0 ^^^ words.getD 13 0 ^^^ words.getD 15 0
      extend count (rotateLeft 1 word :: words)

def schedule (block : Bytes) : List UInt32 :=
  let words := (blocks 4 16 block).map fun bytes => UInt32.ofNat bytes.toNat
  (extend 64 words.reverse).reverse

def mix (round : Nat) (state : State) : UInt32 :=
  let ⟨_, b, c, d, _⟩ := state
  if round < 20 then ((b &&& c) ||| (~~~b &&& d)) + 0x5a827999
  else if round < 40 then (b ^^^ c ^^^ d) + 0x6ed9eba1
  else if round < 60 then ((b &&& c) ||| (b &&& d) ||| (c &&& d)) + 0x8f1bbcdc
  else (b ^^^ c ^^^ d) + 0xca62c1d6

def round (state : State) (number : Nat) (word : UInt32) : State where
  a := rotateLeft 5 state.a + mix number state + state.e + word
  b := state.a
  c := rotateLeft 30 state.b
  d := state.c
  e := state.d

def rounds : (number : Nat) → List UInt32 → State → State
  | _, [], state => state
  | number, word :: words, state => rounds (number + 1) words (round state number word)

def absorb (state : State) (block : Bytes) : State :=
  let mixed := rounds 0 (schedule block) state
  ⟨state.a + mixed.a, state.b + mixed.b, state.c + mixed.c, state.d + mixed.d,
    state.e + mixed.e⟩

end Sha1

open Sha1 in
def sha1 (message : Bytes) : Bytes :=
  let padded := pad message
  let state := (blocks 64 (padded.length / 64) padded).foldl absorb {}
  [state.a, state.b, state.c, state.d, state.e].flatMap fun word =>
    Bytes.bigEndian 4 word.toNat

end TupleStore.Digest
