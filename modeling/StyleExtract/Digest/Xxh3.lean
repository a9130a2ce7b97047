/-!
# The XXH3 digest

XXH3 with 64-bit output, seed zero and the standard secret. The input is cut by its length:
short inputs are mixed with the secret word by word, inputs of up to 240 bytes in pieces of
sixteen bytes, and longer ones in stripes of 64 bytes that feed eight accumulators.

## Main definitions

* `Digest.xxh3` — the digest of a byte array.
* `Digest.ofText` — the digest of the UTF-8 bytes of a text.

## Design

Words are read by `word32` and `word64`, which take bytes past the end as zero; the length
tests in front of every read keep them inside. Arithmetic is on `UInt64` and wraps as the
algorithm asks.
-/

namespace StyleExtract.Digest

/-- The standard secret of 192 bytes. -/
def secret : ByteArray := ⟨#[
  0xb8, 0xfe, 0x6c, 0x39, 0x23, 0xa4, 0x4b, 0xbe, 0x7c, 0x01, 0x81, 0x2c, 0xf7, 0x21, 0xad, 0x1c,
  0xde, 0xd4, 0x6d, 0xe9, 0x83, 0x90, 0x97, 0xdb, 0x72, 0x40, 0xa4, 0xa4, 0xb7, 0xb3, 0x67, 0x1f,
  0xcb, 0x79, 0xe6, 0x4e, 0xcc, 0xc0, 0xe5, 0x78, 0x82, 0x5a, 0xd0, 0x7d, 0xcc, 0xff, 0x72, 0x21,
  0xb8, 0x08, 0x46, 0x74, 0xf7, 0x43, 0x24, 0x8e, 0xe0, 0x35, 0x90, 0xe6, 0x81, 0x3a, 0x26, 0x4c,
  0x3c, 0x28, 0x52, 0xbb, 0x91, 0xc3, 0x00, 0xcb, 0x88, 0xd0, 0x65, 0x8b, 0x1b, 0x53, 0x2e, 0xa3,
  0x71, 0x64, 0x48, 0x97, 0xa2, 0x0d, 0xf9, 0x4e, 0x38, 0x19, 0xef, 0x46, 0xa9, 0xde, 0xac, 0xd8,
  0xa8, 0xfa, 0x76, 0x3f, 0xe3, 0x9c, 0x34, 0x3f, 0xf9, 0xdc, 0xbb, 0xc7, 0xc7, 0x0b, 0x4f, 0x1d,
  0x8a, 0x51, 0xe0, 0x4b, 0xcd, 0xb4, 0x59, 0x31, 0xc8, 0x9f, 0x7e, 0xc9, 0xd9, 0x78, 0x73, 0x64,
  0xea, 0xc5, 0xac, 0x83, 0x34, 0xd3, 0xeb, 0xc3, 0xc5, 0x81, 0xa0, 0xff, 0xfa, 0x13, 0x63, 0xeb,
  0x17, 0x0d, 0xdd, 0x51, 0xb7, 0xf0, 0xda, 0x49, 0xd3, 0x16, 0x55, 0x26, 0x29, 0xd4, 0x68, 0x9e,
  0x2b, 0x16, 0xbe, 0x58, 0x7d, 0x47, 0xa1, 0xfc, 0x8f, 0xf8, 0xb8, 0xd1, 0x7a, 0xd0, 0x31, 0xce,
  0x45, 0xcb, 0x3a, 0x8f, 0x95, 0x16, 0x04, 0x28, 0xaf, 0xd7, 0xfb, 0xca, 0xbb, 0x4b, 0x40, 0x7e]⟩

/-- The first 32-bit prime of the algorithm. -/
def prime32a : UInt64 := 0x9E3779B1
/-- The second 32-bit prime. -/
def prime32b : UInt64 := 0x85EBCA77
/-- The third 32-bit prime. -/
def prime32c : UInt64 := 0xC2B2AE3D
/-- The first 64-bit prime of the algorithm. -/
def prime64a : UInt64 := 0x9E3779B185EBCA87
/-- The second 64-bit prime. -/
def prime64b : UInt64 := 0xC2B2AE3D27D4EB4F
/-- The third 64-bit prime. -/
def prime64c : UInt64 := 0x165667B19E3779F9
/-- The fourth 64-bit prime. -/
def prime64d : UInt64 := 0x85EBCA77C2B2AE63
/-- The fifth 64-bit prime. -/
def prime64e : UInt64 := 0x27D4EB2F165667C5
/-- The factor of the finishing mix of long inputs. -/
def primeMixA : UInt64 := 0x165667919E3779F9
/-- The factor of the finishing mix of inputs of four to eight bytes. -/
def primeMixB : UInt64 := 0x9FB21C651E98DF25

/-- The byte at a place as a word. -/
def byteAt (b : ByteArray) (i : Nat) : UInt64 :=
  (b.data.getD i 0).toUInt64

/-- The four bytes from a place on, least significant first. -/
def word32 (b : ByteArray) (i : Nat) : UInt64 :=
  byteAt b i ||| byteAt b (i + 1) <<< 8 ||| byteAt b (i + 2) <<< 16 ||| byteAt b (i + 3) <<< 24

/-- The eight bytes from a place on, least significant first. -/
def word64 (b : ByteArray) (i : Nat) : UInt64 :=
  word32 b i ||| word32 b (i + 4) <<< 32

/-- Rotation to the left. -/
def rotateLeft (x n : UInt64) : UInt64 :=
  x <<< n ||| x >>> (64 - n)

/-- The bytes of a word in reverse order. -/
def swapBytes (x : UInt64) : UInt64 :=
  (List.range 8).foldl (fun acc i => acc <<< 8 ||| x >>> (8 * i).toUInt64 &&& 0xff) 0

/-- The two halves of the 128-bit product, combined by exclusive or. -/
def foldedProduct (x y : UInt64) : UInt64 :=
  let p := x.toNat * y.toNat
  (p % 0x10000000000000000).toUInt64 ^^^ (p / 0x10000000000000000).toUInt64

/-- The finishing mix of the shortest inputs. -/
def avalancheShort (h : UInt64) : UInt64 :=
  let h := (h ^^^ h >>> 33) * prime64b
  let h := (h ^^^ h >>> 29) * prime64c
  h ^^^ h >>> 32

/-- The finishing mix of the longer inputs. -/
def avalanche (h : UInt64) : UInt64 :=
  let h := (h ^^^ h >>> 37) * primeMixA
  h ^^^ h >>> 32

/-- The finishing mix of inputs of four to eight bytes. -/
def avalancheWord (h : UInt64) (length : UInt64) : UInt64 :=
  let h := h ^^^ rotateLeft h 49 ^^^ rotateLeft h 24
  let h := h * primeMixB
  let h := (h ^^^ (h >>> 35 + length)) * primeMixB
  h ^^^ h >>> 28

/-- One to three bytes. -/
def digestTiny (b : ByteArray) : UInt64 :=
  let n := b.size
  let combined := byteAt b 0 <<< 16 ||| byteAt b (n / 2) <<< 24 ||| byteAt b (n - 1) |||
    n.toUInt64 <<< 8
  avalancheShort (combined ^^^ (word32 secret 0 ^^^ word32 secret 4))

/-- Four to eight bytes. -/
def digestSmall (b : ByteArray) : UInt64 :=
  let n := b.size
  let input := word32 b (n - 4) + word32 b 0 <<< 32
  avalancheWord (input ^^^ (word64 secret 8 ^^^ word64 secret 16)) n.toUInt64

/-- Nine to sixteen bytes. -/
def digestMedium (b : ByteArray) : UInt64 :=
  let n := b.size
  let lo := word64 b 0 ^^^ (word64 secret 24 ^^^ word64 secret 32)
  let hi := word64 b (n - 8) ^^^ (word64 secret 40 ^^^ word64 secret 48)
  avalanche (n.toUInt64 + swapBytes lo + hi + foldedProduct lo hi)

/-- Sixteen bytes of input at `i`, mixed with sixteen bytes of the secret at `s`. -/
def mixPiece (b : ByteArray) (i s : Nat) : UInt64 :=
  foldedProduct (word64 b i ^^^ word64 secret s) (word64 b (i + 8) ^^^ word64 secret (s + 8))

/-- Seventeen to 128 bytes: pieces from both ends towards the middle. -/
def digestPieces (b : ByteArray) : UInt64 :=
  let n := b.size
  let pairs := (n - 1) / 32 + 1
  avalanche <| (List.range pairs).foldl
    (fun acc k => acc + mixPiece b (16 * k) (32 * k) + mixPiece b (n - 16 * (k + 1)) (32 * k + 16))
    (n.toUInt64 * prime64a)

/-- 129 to 240 bytes: the first eight pieces, then the others with a shifted secret. -/
def digestRounds (b : ByteArray) : UInt64 :=
  let n := b.size
  let head := (List.range 8).foldl (fun acc k => acc + mixPiece b (16 * k) (16 * k))
    (n.toUInt64 * prime64a)
  let tail := (List.range (n / 16 - 8)).foldl
    (fun acc k => acc + mixPiece b (16 * (k + 8)) (16 * k + 3)) (avalanche head)
  avalanche (tail + mixPiece b (n - 16) 119)

/-- One accumulator after a stripe at `i` with the secret at `s`: the product of the halves of
its own keyed word, and the plain word of its neighbour. -/
def accumulateLane (b : ByteArray) (i s lane : Nat) (acc : UInt64) : UInt64 :=
  let keyed : UInt64 := word64 b (i + 8 * lane) ^^^ word64 secret (s + 8 * lane)
  let neighbour := word64 b (i + 8 * (lane ^^^ 1))
  acc + neighbour + (keyed &&& (0xffffffff : UInt64)) * (keyed >>> (32 : UInt64))

/-- The eight accumulators after one stripe. -/
def accumulate (b : ByteArray) (i s : Nat) (acc : List UInt64) : List UInt64 :=
  acc.mapIdx fun lane a => accumulateLane b i s lane a

/-- The accumulators after `count` stripes of the block at `i`. -/
def accumulateStripes (b : ByteArray) (i count : Nat) (acc : List UInt64) : List UInt64 :=
  (List.range count).foldl (fun acc k => accumulate b (i + 64 * k) (8 * k) acc) acc

/-- The mix at the end of a whole block. -/
def scramble (acc : List UInt64) : List UInt64 :=
  acc.mapIdx fun lane (a : UInt64) =>
    (a ^^^ a >>> (47 : UInt64) ^^^ word64 secret (128 + 8 * lane)) * prime32a

/-- The accumulators before the first stripe. -/
def initialAccumulators : List UInt64 :=
  [prime32c, prime64a, prime64b, prime64c, prime64d, prime32b, prime64e, prime32a]

/-- Pairs of accumulators merged into one word. -/
def mergeAccumulators (start : UInt64) : Nat → List UInt64 → UInt64
  | s, x :: y :: rest =>
    mergeAccumulators (start + foldedProduct (x ^^^ word64 secret s) (y ^^^ word64 secret (s + 8)))
      (s + 16) rest
  | _, _ => start

/-- More than 240 bytes: blocks of sixteen stripes, a partial block, and the last 64 bytes. -/
def digestStripes (b : ByteArray) : UInt64 :=
  let n := b.size
  let blocks := (n - 1) / 1024
  let acc := (List.range blocks).foldl
    (fun acc k => scramble (accumulateStripes b (1024 * k) 16 acc)) initialAccumulators
  let acc := accumulateStripes b (1024 * blocks) ((n - 1 - 1024 * blocks) / 64) acc
  let acc := accumulate b (n - 64) 121 acc
  avalanche (mergeAccumulators (n.toUInt64 * prime64a) 11 acc)

/-- The XXH3 digest of a byte array. -/
def xxh3 (b : ByteArray) : UInt64 :=
  let n := b.size
  if n = 0 then avalancheShort (word64 secret 56 ^^^ word64 secret 64)
  else if n ≤ 3 then digestTiny b
  else if n ≤ 8 then digestSmall b
  else if n ≤ 16 then digestMedium b
  else if n ≤ 128 then digestPieces b
  else if n ≤ 240 then digestRounds b
  else digestStripes b

/-- The digest of the UTF-8 bytes of a text. -/
def ofText (s : String) : UInt64 :=
  xxh3 s.toUTF8

end StyleExtract.Digest
