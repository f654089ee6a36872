import RequestPipeline.Text.Utf8

/-!
# The digest SHA-1

`sha1` pads a message to whole blocks of 64 bytes and folds the compression of a block over them.
-/

namespace RequestPipeline.Digest

structure Words where
  a : UInt32
  b : UInt32
  c : UInt32
  d : UInt32
  e : UInt32
  deriving DecidableEq, Repr

/-- turns a word to the left -/
def rotate (x n : UInt32) : UInt32 := (x <<< n) ||| (x >>> (32 - n))

/-- the bytes of a number, the most significant first -/
def bigEndian : (count : Nat) → Nat → Bytes
  | 0, _ => []
  | count + 1, n => bigEndian count (n / 256) ++ [n.toUInt8]

/-- the message with a one bit, zeros and its length in bits behind it -/
def padded (message : Bytes) : Bytes :=
  let zeros := (119 - message.length % 64) % 64
  message ++ 0x80 :: List.replicate zeros 0 ++ bigEndian 8 (8 * message.length)

def words : Bytes → List UInt32
  | a :: b :: c :: d :: rest =>
    (a.toUInt32 <<< 24 ||| b.toUInt32 <<< 16 ||| c.toUInt32 <<< 8 ||| d.toUInt32) :: words rest
  | _ => []

/-- makes words longer, the newest in front: each comes from four that stand before it -/
def lengthen : (count : Nat) → List UInt32 → List UInt32
  | 0, ws => ws
  | count + 1, ws =>
    let w (i : Nat) : UInt32 := ws.getD i 0
    lengthen count (rotate (w 2 ^^^ w 7 ^^^ w 13 ^^^ w 15) 1 :: ws)

def schedule (block : Bytes) : List UInt32 := (lengthen 64 (words block).reverse).reverse

/-- what a round adds, by its number -/
def mix (round : Nat) (s : Words) : UInt32 :=
  if round < 20 then ((s.b &&& s.c) ||| (~~~s.b &&& s.d)) + 0x5A827999
  else if round < 40 then (s.b ^^^ s.c ^^^ s.d) + 0x6ED9EBA1
  else if round < 60 then
    ((s.b &&& s.c) ||| (s.b &&& s.d) ||| (s.c &&& s.d)) + 0x8F1BBCDC
  else (s.b ^^^ s.c ^^^ s.d) + 0xCA62C1D6

def round (s : Words) (numbered : UInt32 × Nat) : Words :=
  ⟨rotate s.a 5 + mix numbered.2 s + s.e + numbered.1, s.a, rotate s.b 30, s.c, s.d⟩

/-- folds a block into the words so far -/
def compress (s : Words) (block : Bytes) : Words :=
  let t := (schedule block).zipIdx.foldl round s
  ⟨s.a + t.a, s.b + t.b, s.c + t.c, s.d + t.d, s.e + t.e⟩

/-- cuts bytes into blocks of 64 -/
def blocks : (count : Nat) → Bytes → List Bytes
  | 0, _ => []
  | count + 1, bs => bs.take 64 :: blocks count (bs.drop 64)

def start : Words := ⟨0x67452301, 0xEFCDAB89, 0x98BADCFE, 0x10325476, 0xC3D2E1F0⟩

def sha1 (message : Bytes) : Bytes :=
  let bs := padded message
  let s := (blocks (bs.length / 64) bs).foldl compress start
  [s.a, s.b, s.c, s.d, s.e].flatMap fun w => bigEndian 4 w.toNat

end RequestPipeline.Digest
