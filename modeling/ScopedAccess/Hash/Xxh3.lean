/-!
# ScopedAccess.Hash.Xxh3

The 64-bit XXH3 hash with a seed, over the UTF-8 bytes of a text. Words are little-endian. There
are five cases by length: up to 16, 128 and 240 bytes the bytes are folded against a fixed secret;
longer inputs run through eight lanes with a secret derived from the seed.
-/

namespace ScopedAccess.Hash.Xxh3

def secret : Array UInt8 := #[
  0xb8, 0xfe, 0x6c, 0x39, 0x23, 0xa4, 0x4b, 0xbe, 0x7c, 0x01, 0x81, 0x2c, 0xf7, 0x21, 0xad, 0x1c,
  0xde, 0xd4, 0x6d, 0xe9, 0x83, 0x90, 0x97, 0xdb, 0x72, 0x40, 0xa4, 0xa4, 0xb7, 0xb3, 0x67, 0x1f,
  0xcb, 0x79, 0xe6, 0x4e, 0xcc, 0xc0, 0xe5, 0x78, 0x82, 0x5a, 0xd0, 0x7d, 0xcc, 0xff, 0x72, 0x21,
  0xb8, 0x08, 0x46, 0x74, 0xf7, 0x43, 0x24, 0x8e, 0xe0, 0x35, 0x90, 0xe6, 0x81, 0x3a, 0x26, 0x4c,
  0x3c, 0x28, 0x52, 0xbb, 0x91, 0xc3, 0x00, 0xcb, 0x88, 0xd0, 0x65, 0x8b, 0x1b, 0x53, 0x2e, 0xa3,
  0x71, 0x64, 0x48, 0x97, 0xa2, 0x0d, 0xf9, 0x4e, 0x38, 0x19, 0xef, 0x46, 0xa9, 0xde, 0xac, 0xd8,
  0xa8, 0xfa, 0x76, 0x3f, 0xe3, 0x9c, 0x34, 0x3f, 0xf9, 0xdc, 0xbb, 0xc7, 0xc7, 0x0b, 0x4f, 0x1d,
  0x8a, 0x51, 0xe0, 0x4b, 0xcd, 0xb4, 0x59, 0x31, 0xc8, 0x9f, 0x7e, 0xc9, 0xd9, 0x78, 0x73, 0x64,
  0xea, 0xc5, 0xac, 0x83, 0x34, 0xd3, 0xeb, 0xc3, 0xc5, 0x81, 0xa0, 0xff, 0xfa, 0x13, 0x63, 0xeb,
  0x17, 0x0d, 0xdd, 0x51, 0xb7, 0xf0, 0xda, 0x49, 0xd3, 0x16, 0x55, 0x26, 0x29, 0xd4, 0x68, 0x9e,
  0x2b, 0x16, 0xbe, 0x58, 0x7d, 0x47, 0xa1, 0xfc, 0x8f, 0xf8, 0xb8, 0xd1, 0x7a, 0xd0, 0x31, 0xce,
  0x45, 0xcb, 0x3a, 0x8f, 0x95, 0x16, 0x04, 0x28, 0xaf, 0xd7, 0xfb, 0xca, 0xbb, 0x4b, 0x40, 0x7e]

def p32₁ : UInt64 := 0x9E3779B1

def p32₂ : UInt64 := 0x85EBCA77

def p32₃ : UInt64 := 0xC2B2AE3D

def p64₁ : UInt64 := 0x9E3779B185EBCA87

def p64₂ : UInt64 := 0xC2B2AE3D27D4EB4F

def p64₃ : UInt64 := 0x165667B19E3779F9

def p64₄ : UInt64 := 0x85EBCA77C2B2AE63

def p64₅ : UInt64 := 0x27D4EB2F165667C5

/-- The lower half of a word. -/
def lowHalf : UInt64 := 0xFFFFFFFF

/-- Multiplier of the final mixing of most lengths. -/
def mixer₁ : UInt64 := 0x165667919E3779F9

/-- Multiplier of the final mixing of four to eight bytes. -/
def mixer₂ : UInt64 := 0x9FB21C651E98DF25

def byteAt (bs : Array UInt8) (i : Nat) : UInt64 := (bs.getD i 0).toUInt64

/-- The word of four bytes at an offset. -/
def word32 (bs : Array UInt8) (i : Nat) : UInt64 :=
  byteAt bs i ||| byteAt bs (i + 1) <<< 8 ||| byteAt bs (i + 2) <<< 16 ||| byteAt bs (i + 3) <<< 24

/-- The word of eight bytes at an offset. -/
def word64 (bs : Array UInt8) (i : Nat) : UInt64 :=
  word32 bs i ||| word32 bs (i + 4) <<< 32

/-- Bytes of a word, least significant first. -/
def bytesOf (w : UInt64) : List UInt8 :=
  [w.toUInt8, (w >>> 8).toUInt8, (w >>> 16).toUInt8, (w >>> 24).toUInt8,
    (w >>> 32).toUInt8, (w >>> 40).toUInt8, (w >>> 48).toUInt8, (w >>> 56).toUInt8]

/-- A word with its eight bytes in reverse order. -/
def swap64 (w : UInt64) : UInt64 := word64 (bytesOf w).reverse.toArray 0

/-- The lower four bytes of a word in reverse order. -/
def swap32 (w : UInt64) : UInt64 := word32 ((bytesOf w).take 4).reverse.toArray 0

/-- Rotation to the left. -/
def rotate (w : UInt64) (k : UInt64) : UInt64 := w <<< k ||| w >>> (64 - k)

/-- Exclusive or of the two halves of a product. -/
def foldMul (a b : UInt64) : UInt64 :=
  let p := a.toNat * b.toNat
  UInt64.ofNat p ^^^ UInt64.ofNat (p / UInt64.size)

def avalanche (h : UInt64) : UInt64 :=
  let h := (h ^^^ h >>> 37) * mixer₁
  h ^^^ h >>> 32

/-- Final mixing of the shortest lengths. -/
def avalancheShort (h : UInt64) : UInt64 :=
  let h := (h ^^^ h >>> 33) * p64₂
  let h := (h ^^^ h >>> 29) * p64₃
  h ^^^ h >>> 32

/-- Final mixing of four to eight bytes. -/
def avalancheWord (h len : UInt64) : UInt64 :=
  let h := (h ^^^ rotate h 49 ^^^ rotate h 24) * mixer₂
  let h := (h ^^^ (h >>> 35 + len)) * mixer₂
  h ^^^ h >>> 28

/-- Sixteen bytes folded against sixteen bytes of the secret. -/
def mix16 (seed : UInt64) (bs : Array UInt8) (i s : Nat) : UInt64 :=
  foldMul (word64 bs i ^^^ (word64 secret s + seed))
    (word64 bs (i + 8) ^^^ (word64 secret (s + 8) - seed))

def hashShort (seed : UInt64) (bs : Array UInt8) : UInt64 :=
  let n := bs.size
  let len := UInt64.ofNat n
  if n > 8 then
    let low := word64 bs 0 ^^^ ((word64 secret 24 ^^^ word64 secret 32) + seed)
    let high := word64 bs (n - 8) ^^^ ((word64 secret 40 ^^^ word64 secret 48) - seed)
    avalanche (len + swap64 low + high + foldMul low high)
  else if n > 3 then
    let seed := seed ^^^ swap32 seed <<< 32
    let flip := (word64 secret 8 ^^^ word64 secret 16) - seed
    avalancheWord ((word32 bs (n - 4) + word32 bs 0 <<< 32) ^^^ flip) len
  else if n > 0 then
    let combined := byteAt bs 0 <<< 16 ||| byteAt bs (n / 2) <<< 24 ||| byteAt bs (n - 1) ||| len <<< 8
    avalancheShort (combined ^^^ ((word32 secret 0 ^^^ word32 secret 4) + seed))
  else avalancheShort (seed ^^^ (word64 secret 56 ^^^ word64 secret 64))

/-- Hash of 17 to 128 bytes: pairs of blocks from both ends, inwards. -/
def hashMedium (seed : UInt64) (bs : Array UInt8) : UInt64 :=
  let n := bs.size
  let pairs := (n - 1) / 32 + 1
  avalanche <| (List.range pairs).foldl
    (fun acc k => acc + mix16 seed bs (16 * k) (32 * k) +
      mix16 seed bs (n - 16 * (k + 1)) (32 * k + 16))
    (UInt64.ofNat n * p64₁)

/-- Hash of 129 to 240 bytes: eight blocks, the others, and the last sixteen bytes again. -/
def hashLarge (seed : UInt64) (bs : Array UInt8) : UInt64 :=
  let n := bs.size
  let head := (List.range 8).foldl (fun acc k => acc + mix16 seed bs (16 * k) (16 * k))
    (UInt64.ofNat n * p64₁)
  let rest := (List.range (n / 16 - 8)).foldl
    (fun acc k => acc + mix16 seed bs (16 * (k + 8)) (16 * k + 3)) (avalanche head)
  avalanche (rest + mix16 seed bs (n - 16) 119)

def secretOf (seed : UInt64) : Array UInt8 :=
  ((List.range 12).flatMap fun k =>
    bytesOf (word64 secret (16 * k) + seed) ++ bytesOf (word64 secret (16 * k + 8) - seed)).toArray

def lanes : List UInt64 := [p32₃, p64₁, p64₂, p64₃, p64₄, p32₂, p64₅, p32₁]

/-- A stripe of 64 bytes added to the lanes: each lane takes the product of the halves of its keyed
word, and its neighbour takes the word itself. -/
def accumulate (key bs : Array UInt8) (acc : List UInt64) (i s : Nat) : List UInt64 :=
  acc.zipIdx.map fun (lane, k) =>
    let own := word64 bs (i + 8 * k) ^^^ word64 key (s + 8 * k)
    let other := word64 bs (i + 8 * (if k % 2 = 0 then k + 1 else k - 1))
    lane + other + (own &&& lowHalf) * (own >>> 32)

/-- Some stripes of a block, each with the secret eight bytes further. -/
def accumulateAll (key bs : Array UInt8) (acc : List UInt64) (i count : Nat) : List UInt64 :=
  (List.range count).foldl (fun acc k => accumulate key bs acc (i + 64 * k) (8 * k)) acc

def scramble (key : Array UInt8) (acc : List UInt64) : List UInt64 :=
  acc.zipIdx.map fun (lane, k) =>
    ((lane ^^^ lane >>> 47) ^^^ word64 key (128 + 8 * k)) * p32₁

/-- Pairs of lanes folded into one word. -/
def merge (key : Array UInt8) (s : Nat) : List UInt64 → UInt64 → UInt64
  | a :: b :: rest, acc =>
    merge key (s + 16) rest (acc + foldMul (a ^^^ word64 key s) (b ^^^ word64 key (s + 8)))
  | _, acc => acc

/-- Hash of more than 240 bytes: blocks of sixteen stripes, the stripes left over, and the last 64
bytes again. -/
def hashLong (seed : UInt64) (bs : Array UInt8) : UInt64 :=
  let key := secretOf seed
  let n := bs.size
  let blocks := (n - 1) / 1024
  let acc := (List.range blocks).foldl
    (fun acc b => scramble key (accumulateAll key bs acc (1024 * b) 16)) lanes
  let acc := accumulateAll key bs acc (1024 * blocks) ((n - 1 - 1024 * blocks) / 64)
  let acc := accumulate key bs acc (n - 64) 121
  avalanche (merge key 11 acc (UInt64.ofNat n * p64₁))

def hashBytes (seed : UInt64) (bs : Array UInt8) : UInt64 :=
  if bs.size ≤ 16 then hashShort seed bs
  else if bs.size ≤ 128 then hashMedium seed bs
  else if bs.size ≤ 240 then hashLarge seed bs
  else hashLong seed bs

def hash (seed : UInt64) (s : String) : UInt64 := hashBytes seed s.toUTF8.data

end ScopedAccess.Hash.Xxh3
