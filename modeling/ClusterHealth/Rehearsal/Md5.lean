import ClusterHealth.Text.Utf8

/-! The digest that the digest command prints: four words, mixed with blocks of sixteen words. -/
namespace ClusterHealth.Rehearsal.Md5
open Text (Bytes)

structure Words where
  a : UInt32
  b : UInt32
  c : UInt32
  d : UInt32

def Words.initial : Words := ⟨0x67452301, 0xefcdab89, 0x98badcfe, 0x10325476⟩

def Words.add (x y : Words) : Words := ⟨x.a + y.a, x.b + y.b, x.c + y.c, x.d + y.d⟩

/-- One word per step, from the sines of the whole numbers from one to 64. -/
def sines : List UInt32 := [
  0xd76aa478, 0xe8c7b756, 0x242070db, 0xc1bdceee, 0xf57c0faf, 0x4787c62a, 0xa8304613,
  0xfd469501, 0x698098d8, 0x8b44f7af, 0xffff5bb1, 0x895cd7be, 0x6b901122, 0xfd987193,
  0xa679438e, 0x49b40821, 0xf61e2562, 0xc040b340, 0x265e5a51, 0xe9b6c7aa, 0xd62f105d,
  0x02441453, 0xd8a1e681, 0xe7d3fbc8, 0x21e1cde6, 0xc33707d6, 0xf4d50d87, 0x455a14ed,
  0xa9e3e905, 0xfcefa3f8, 0x676f02d9, 0x8d2a4c8a, 0xfffa3942, 0x8771f681, 0x6d9d6122,
  0xfde5380c, 0xa4beea44, 0x4bdecfa9, 0xf6bb4b60, 0xbebfbc70, 0x289b7ec6, 0xeaa127fa,
  0xd4ef3085, 0x04881d05, 0xd9d4d039, 0xe6db99e5, 0x1fa27cf8, 0xc4ac5665, 0xf4292244,
  0x432aff97, 0xab9423a7, 0xfc93a039, 0x655b59c3, 0x8f0ccc92, 0xffeff47d, 0x85845dd1,
  0x6fa87e4f, 0xfe2ce6e0, 0xa3014314, 0x4e0811a1, 0xf7537e82, 0xbd3af235, 0x2ad7d2bb,
  0xeb86d391
]

/-- The four rotations that the steps of each round go through in turn. -/
def rotations (step : Nat) : List UInt32 :=
  match step / 16 with
  | 0 => [7, 12, 17, 22]
  | 1 => [5, 9, 14, 20]
  | 2 => [4, 11, 16, 23]
  | _ => [6, 10, 15, 21]

/-- Combines three words, and says which word of the block joins them. -/
def combine (step : Nat) (w : Words) : UInt32 × Nat :=
  match step / 16 with
  | 0 => ((w.b &&& w.c) ||| (~~~w.b &&& w.d), step)
  | 1 => ((w.d &&& w.b) ||| (~~~w.d &&& w.c), 5 * step + 1)
  | 2 => (w.b ^^^ w.c ^^^ w.d, 3 * step + 5)
  | _ => (w.c ^^^ (w.b ||| ~~~w.d), 7 * step)

def rotate (x n : UInt32) : UInt32 := (x <<< n) ||| (x >>> (32 - n))

def mixStep (block : List UInt32) (w : Words) (sine : UInt32) (step : Nat) : Words :=
  let (mixed, place) := combine step w
  let sum := w.a + mixed + sine + block.getD (place % 16) 0
  ⟨w.d, w.b + rotate sum ((rotations step).getD (step % 4) 0), w.b, w.c⟩

/-- Mixes a block into the words. -/
def mixBlock (w : Words) (block : List UInt32) : Words :=
  w.add (sines.zipIdx.foldl (fun w (sine, step) => mixStep block w sine step) w)

/-- The lowest byte first. -/
def littleEndian (size n : Nat) : Bytes :=
  (List.range size).map fun place => .ofNat (n / Nat.pow 256 place)

/-- A one bit, and zeros until only the length in bits is missing from the last block. -/
def padded (content : Bytes) : Bytes :=
  let zeros := (119 - content.length % 64) % 64
  content ++ 0x80 :: List.replicate zeros 0 ++ littleEndian 8 (content.length * 8)

/-- Four bytes to a word. What is left over is no word. -/
def wordsOf : Bytes → List UInt32
  | a :: b :: c :: d :: rest =>
    (a.toUInt32 ||| b.toUInt32 <<< 8 ||| c.toUInt32 <<< 16 ||| d.toUInt32 <<< 24) :: wordsOf rest
  | _ => []

/-- Mixes in as many blocks as there are. -/
def mixBlocks : Nat → Words → List UInt32 → Words
  | 0, w, _ => w
  | blocks + 1, w, words => mixBlocks blocks (mixBlock w (words.take 16)) (words.drop 16)

def digest (content : Bytes) : Bytes :=
  let words := wordsOf (padded content)
  let w := mixBlocks (words.length / 16) .initial words
  [w.a, w.b, w.c, w.d].flatMap fun word => littleEndian 4 word.toNat

/-- Two small hexadecimal digits to a byte. -/
def hex (bytes : Bytes) : String :=
  .ofList (bytes.flatMap fun b =>
    [Nat.digitChar (b.toNat / 16), Nat.digitChar (b.toNat % 16)])

/-- The digest in hexadecimal digits. -/
def text (content : Bytes) : String := hex (digest content)

end ClusterHealth.Rehearsal.Md5
