import FieldSchema.Text.Hex

/-!
# SHA-256

The digest of a sequence of bytes: the bytes are padded to blocks of sixty-four, and every block
is mixed into eight words.  Words are thirty-two bits wide and arithmetic wraps around.

* `Sha256.padding`: what is appended to a message.
* `Sha256.compress`: one block mixed into the state.
* `Sha256.digest`, `Sha256.hexDigest`: the digest as words and as hexadecimal digits.
-/

namespace FieldSchema

namespace Sha256

/-! ## Constants -/

/-- The words that the rounds add. -/
def roundWords : List UInt32 :=
  [0x428a2f98, 0x71374491, 0xb5c0fbcf, 0xe9b5dba5, 0x3956c25b, 0x59f111f1, 0x923f82a4, 0xab1c5ed5,
    0xd807aa98, 0x12835b01, 0x243185be, 0x550c7dc3, 0x72be5d74, 0x80deb1fe, 0x9bdc06a7, 0xc19bf174,
    0xe49b69c1, 0xefbe4786, 0x0fc19dc6, 0x240ca1cc, 0x2de92c6f, 0x4a7484aa, 0x5cb0a9dc, 0x76f988da,
    0x983e5152, 0xa831c66d, 0xb00327c8, 0xbf597fc7, 0xc6e00bf3, 0xd5a79147, 0x06ca6351, 0x14292967,
    0x27b70a85, 0x2e1b2138, 0x4d2c6dfc, 0x53380d13, 0x650a7354, 0x766a0abb, 0x81c2c92e, 0x92722c85,
    0xa2bfe8a1, 0xa81a664b, 0xc24b8b70, 0xc76c51a3, 0xd192e819, 0xd6990624, 0xf40e3585, 0x106aa070,
    0x19a4c116, 0x1e376c08, 0x2748774c, 0x34b0bcb5, 0x391c0cb3, 0x4ed8aa4a, 0x5b9cca4f, 0x682e6ff3,
    0x748f82ee, 0x78a5636f, 0x84c87814, 0x8cc70208, 0x90befffa, 0xa4506ceb, 0xbef9a3f7, 0xc67178f2]

/-- Eight words. -/
structure State where
  a : UInt32
  b : UInt32
  c : UInt32
  d : UInt32
  e : UInt32
  f : UInt32
  g : UInt32
  h : UInt32
  deriving DecidableEq, Repr, Inhabited

namespace State

/-- The state before the first block. -/
def start : State :=
  ⟨0x6a09e667, 0xbb67ae85, 0x3c6ef372, 0xa54ff53a, 0x510e527f, 0x9b05688c, 0x1f83d9ab, 0x5be0cd19⟩

/-- The sum of two states, word by word. -/
def add (s t : State) : State :=
  ⟨s.a + t.a, s.b + t.b, s.c + t.c, s.d + t.d, s.e + t.e, s.f + t.f, s.g + t.g, s.h + t.h⟩

/-- The words in order. -/
def words (s : State) : List UInt32 := [s.a, s.b, s.c, s.d, s.e, s.f, s.g, s.h]

end State

/-! ## Words -/

/-- A word turned right. -/
def turn (x : UInt32) (by' : UInt32) : UInt32 := (x >>> by') ||| (x <<< (32 - by'))

/-- The first mixture of a schedule word. -/
def scheduleEarly (x : UInt32) : UInt32 := turn x 7 ^^^ turn x 18 ^^^ (x >>> 3)

/-- The second mixture of a schedule word. -/
def scheduleLate (x : UInt32) : UInt32 := turn x 17 ^^^ turn x 19 ^^^ (x >>> 10)

/-- The mixture of the first word of a state. -/
def mixFirst (x : UInt32) : UInt32 := turn x 2 ^^^ turn x 13 ^^^ turn x 22

/-- The mixture of the fifth word of a state. -/
def mixFifth (x : UInt32) : UInt32 := turn x 6 ^^^ turn x 11 ^^^ turn x 25

/-- The bits of the second or third word, as the first one says. -/
def choose (x y z : UInt32) : UInt32 := (x &&& y) ^^^ ((x ^^^ 0xffffffff) &&& z)

/-- The bits that most words have. -/
def majority (x y z : UInt32) : UInt32 := (x &&& y) ^^^ (x &&& z) ^^^ (y &&& z)

/-- Bytes as words, the first byte being the highest; an incomplete word is dropped. -/
def wordsOfBytes : List UInt8 → List UInt32
  | p :: q :: r :: s :: rest =>
    ((p.toUInt32 <<< 24) ||| (q.toUInt32 <<< 16) ||| (r.toUInt32 <<< 8) ||| s.toUInt32) ::
      wordsOfBytes rest
  | _ => []

/-! ## Blocks -/

/-- A schedule with more words, each made of four earlier ones. -/
def extend : Nat → Array UInt32 → Array UInt32
  | 0, words => words
  | n + 1, words =>
    let t := words.size
    extend n (words.push (scheduleLate (words.getD (t - 2) 0) + words.getD (t - 7) 0 +
      scheduleEarly (words.getD (t - 15) 0) + words.getD (t - 16) 0))

/-- The sixty-four words of a block. -/
def schedule (block : List UInt8) : List UInt32 :=
  (extend 48 (wordsOfBytes block).toArray).toList

/-- One round. -/
def round (s : State) (word : UInt32 × UInt32) : State :=
  let first := s.h + mixFifth s.e + choose s.e s.f s.g + word.1 + word.2
  let second := mixFirst s.a + majority s.a s.b s.c
  ⟨first + second, s.a, s.b, s.c, s.d + first, s.e, s.f, s.g⟩

/-- The state after a block. -/
def compress (s : State) (block : List UInt8) : State :=
  s.add ((roundWords.zip (schedule block)).foldl round s)

/-- The state after a number of blocks. -/
def compressAll : Nat → State → List UInt8 → State
  | 0, s, _ => s
  | n + 1, s, bytes => compressAll n (compress s (bytes.take 64)) (bytes.drop 64)

/-! ## Messages -/

/-- A number in eight bytes, the highest first. -/
def lengthBytes (n : Nat) : List UInt8 :=
  [56, 48, 40, 32, 24, 16, 8, 0].map fun shift => UInt8.ofNat (n >>> shift)

/-- What is appended to a message of some length: a mark, zeros up to eight bytes before the end
of a block, and the length in bits. -/
def padding (length : Nat) : List UInt8 :=
  0x80 :: List.replicate ((119 - length % 64) % 64) 0 ++ lengthBytes (8 * length)

/-- The digest of a message. -/
def digest (message : List UInt8) : State :=
  let padded := message ++ padding message.length
  compressAll (padded.length / 64) .start padded

/-- The digest of a message in hexadecimal digits. -/
def hexDigest (message : List UInt8) : String :=
  String.ofList ((digest message).words.flatMap fun w => Text.hexFixed 8 w.toNat)

end Sha256

end FieldSchema
