import NetShell.Bytes

/-! The SHA-1 digest of a byte string.

The message is padded to whole blocks of 64 bytes, each block is spread over eighty
words, and a chain of five words takes eighty rounds per block. -/
namespace NetShell.Digest

/-- The five words that a block changes. -/
structure Chain where
  a : UInt32
  b : UInt32
  c : UInt32
  d : UInt32
  e : UInt32

namespace Chain

/-- The chain before the first block. -/
def initial : Chain := ⟨0x67452301, 0xEFCDAB89, 0x98BADCFE, 0x10325476, 0xC3D2E1F0⟩

def add (x y : Chain) : Chain := ⟨x.a + y.a, x.b + y.b, x.c + y.c, x.d + y.d, x.e + y.e⟩

def words (x : Chain) : List UInt32 := [x.a, x.b, x.c, x.d, x.e]

end Chain

/-- A word turned left. -/
def rotateLeft (w : UInt32) (n : UInt32) : UInt32 := (w <<< n) ||| (w >>> (32 - n))

/-- The padding of a message of a given length: a one bit, zeros up to eight bytes
short of a block, and the length in bits. -/
def padding (length : Nat) : Bytes :=
  0x80 :: List.replicate ((119 - length % 64) % 64) 0 ++ Bytes.ofNat 8 (length * 8)

/-- Words of four bytes, most significant first. -/
def wordsOf : Bytes → List UInt32
  | a :: b :: c :: d :: rest => UInt32.ofNat (Bytes.toNat [a, b, c, d]) :: wordsOf rest
  | _ => []

/-- The schedule continued by `n` words; the words are held newest first. -/
def schedule : (n : Nat) → List UInt32 → List UInt32
  | 0, held => held
  | n + 1, held =>
    let back := fun i => held.getD i 0
    schedule n (rotateLeft (back 2 ^^^ back 7 ^^^ back 13 ^^^ back 15) 1 :: held)

/-- The function and the constant of a round. -/
def roundOf (t : Nat) (x : Chain) : UInt32 × UInt32 :=
  if t < 20 then ((x.b &&& x.c) ||| (~~~x.b &&& x.d), 0x5A827999)
  else if t < 40 then (x.b ^^^ x.c ^^^ x.d, 0x6ED9EBA1)
  else if t < 60 then ((x.b &&& x.c) ||| (x.b &&& x.d) ||| (x.c &&& x.d), 0x8F1BBCDC)
  else (x.b ^^^ x.c ^^^ x.d, 0xCA62C1D6)

/-- One round with the schedule's next word. -/
def round (x : Chain) (word : UInt32 × Nat) : Chain :=
  let (f, k) := roundOf word.2 x
  ⟨rotateLeft x.a 5 + f + x.e + k + word.1, x.a, rotateLeft x.b 30, x.c, x.d⟩

/-- One block of sixteen words. -/
def block (x : Chain) (message : List UInt32) : Chain :=
  x.add ((schedule 64 message.reverse).reverse.zipIdx.foldl round x)

/-- `count` blocks. -/
def blocks : (count : Nat) → Chain → List UInt32 → Chain
  | 0, x, _ => x
  | count + 1, x, message => blocks count (block x (message.take 16)) (message.drop 16)

/-- The twenty bytes of the digest. -/
def sha1 (message : Bytes) : Bytes :=
  let padded := message ++ padding message.length
  (blocks (padded.length / 64) .initial (wordsOf padded)).words.flatMap fun w =>
    Bytes.ofNat 4 w.toNat

theorem length_sha1 (message : Bytes) : (sha1 message).length = 20 := by
  simp [sha1, Chain.words]

end NetShell.Digest
