import Recap.Programs.Shell.Arithmetic
import Recap.Programs.Tool.Options

/-!
# Digests

Short numbers that are made of all bytes of a text.

## Contents
- `md5`, `sha1`, `sha256`, `sha512`, `blake2` — digests in blocks.
- `checksum`, `turnedSum` — a remainder of polynomials, and a sum.
- `digestProgram`, `cksum`, `sum` — the programs that write them.
-/

namespace Recap.Tool

open Recap.Shell

/-! ## Blocks -/

/-- The bytes of a number, the highest first. -/
def bytesOf (count n : Nat) : Bytes :=
  (List.range count).map fun i => UInt8.ofNat (n >>> (8 * (count - 1 - i)))

/-- Bytes with a mark behind them, zeros, and their number in bits. -/
def padded (block lengthSize : Nat) (lowFirst : Bool) (bs : Bytes) : Bytes :=
  let zeros := (block - (bs.length + 1 + lengthSize) % block) % block
  let size := bytesOf lengthSize (8 * bs.length)
  bs ++ 0x80 :: List.replicate zeros 0 ++ (if lowFirst then size.reverse else size)

/-- Pieces of a size. `fuel` is at least the number of elements. -/
def inPieces {α : Type} (size : Nat) : Nat → List α → List (List α)
  | 0, _ | _, [] => []
  | fuel + 1, a :: as => (a :: as).take size :: inPieces size fuel ((a :: as).drop size)

/-- The number of bytes, the highest first. -/
def numberOf (bs : Bytes) : Nat := bs.foldl (fun n b => n * 256 + b.toNat) 0

/-- A word with its bits turned to the left. -/
def turnLeft (x : UInt32) (n : UInt32) : UInt32 := (x <<< n) ||| (x >>> (32 - n))

/-- A word with its bits turned to the right. -/
def turnRight (x : UInt32) (n : UInt32) : UInt32 := (x >>> n) ||| (x <<< (32 - n))

/-- A long word with its bits turned to the right. -/
def turnRightLong (x : UInt64) (n : UInt64) : UInt64 := (x >>> n) ||| (x <<< (64 - n))

/-! ## Digests of four words -/

/-- The numbers that are added in turn. -/
def md5Table : Array UInt32 :=
  #[
    0xd76aa478, 0xe8c7b756, 0x242070db, 0xc1bdceee, 0xf57c0faf, 0x4787c62a, 0xa8304613, 0xfd469501,
    0x698098d8, 0x8b44f7af, 0xffff5bb1, 0x895cd7be, 0x6b901122, 0xfd987193, 0xa679438e, 0x49b40821,
    0xf61e2562, 0xc040b340, 0x265e5a51, 0xe9b6c7aa, 0xd62f105d, 0x02441453, 0xd8a1e681, 0xe7d3fbc8,
    0x21e1cde6, 0xc33707d6, 0xf4d50d87, 0x455a14ed, 0xa9e3e905, 0xfcefa3f8, 0x676f02d9, 0x8d2a4c8a,
    0xfffa3942, 0x8771f681, 0x6d9d6122, 0xfde5380c, 0xa4beea44, 0x4bdecfa9, 0xf6bb4b60, 0xbebfbc70,
    0x289b7ec6, 0xeaa127fa, 0xd4ef3085, 0x04881d05, 0xd9d4d039, 0xe6db99e5, 0x1fa27cf8, 0xc4ac5665,
    0xf4292244, 0x432aff97, 0xab9423a7, 0xfc93a039, 0x655b59c3, 0x8f0ccc92, 0xffeff47d, 0x85845dd1,
    0x6fa87e4f, 0xfe2ce6e0, 0xa3014314, 0x4e0811a1, 0xf7537e82, 0xbd3af235, 0x2ad7d2bb, 0xeb86d391]

/-- How far words are turned. -/
def md5Turns : Array UInt32 :=
  #[7, 12, 17, 22, 5, 9, 14, 20, 4, 11, 16, 23, 6, 10, 15, 21]

/-- One round on four words. -/
def md5Round (words : Array UInt32) (s : UInt32 × UInt32 × UInt32 × UInt32) (i : Nat) :
    UInt32 × UInt32 × UInt32 × UInt32 :=
  let (a, b, c, d) := s
  let (f, g) := match i / 16 with
    | 0 => ((b &&& c) ||| (~~~b &&& d), i)
    | 1 => ((d &&& b) ||| (~~~d &&& c), (5 * i + 1) % 16)
    | 2 => (b ^^^ c ^^^ d, (3 * i + 5) % 16)
    | _ => (c ^^^ (b ||| ~~~d), 7 * i % 16)
  let sum := a + f + md5Table.getD i 0 + words.getD g 0
  (d, b + turnLeft sum (md5Turns.getD (i / 16 * 4 + i % 4) 0), b, c)

/-- The digest of four words. -/
def md5 (bs : Bytes) : Bytes :=
  let all := padded 64 8 true bs
  let blocks := inPieces 64 all.length all
  let step (s : UInt32 × UInt32 × UInt32 × UInt32) (block : Bytes) : UInt32 × UInt32 × UInt32 × UInt32 :=
    let words := ((inPieces 4 64 block).map fun w => (numberOf w.reverse).toUInt32).toArray
    let (a, b, c, d) := (List.range 64).foldl (md5Round words) s
    (s.1 + a, s.2.1 + b, s.2.2.1 + c, s.2.2.2 + d)
  let (a, b, c, d) := blocks.foldl step (0x67452301, 0xefcdab89, 0x98badcfe, 0x10325476)
  [a, b, c, d].flatMap fun w => (bytesOf 4 w.toNat).reverse

/-! ## Digests of five words -/

/-- Words with those that are made of them behind. -/
def sha1Words (block : Bytes) : Array UInt32 :=
  let first := ((inPieces 4 64 block).map fun w => (numberOf w).toUInt32).toArray
  (List.range 64).foldl
    (fun ws k =>
      let i := k + 16
      ws.push (turnLeft (ws.getD (i - 3) 0 ^^^ ws.getD (i - 8) 0 ^^^ ws.getD (i - 14) 0 ^^^
        ws.getD (i - 16) 0) 1))
    first

/-- One round on five words. -/
def sha1Round (words : Array UInt32) (s : List UInt32) (i : Nat) : List UInt32 :=
  match s with
  | [a, b, c, d, e] =>
    let (f, k) : UInt32 × UInt32 := match i / 20 with
      | 0 => ((b &&& c) ||| (~~~b &&& d), 0x5a827999)
      | 1 => (b ^^^ c ^^^ d, 0x6ed9eba1)
      | 2 => ((b &&& c) ||| (b &&& d) ||| (c &&& d), 0x8f1bbcdc)
      | _ => (b ^^^ c ^^^ d, 0xca62c1d6)
    [turnLeft a 5 + f + e + k + words.getD i 0, a, turnLeft b 30, c, d]
  | s => s

/-- The digest of five words. -/
def sha1 (bs : Bytes) : Bytes :=
  let all := padded 64 8 false bs
  let step (s : List UInt32) (block : Bytes) : List UInt32 :=
    List.zipWith (· + ·) s ((List.range 80).foldl (sha1Round (sha1Words block)) s)
  let last := (inPieces 64 all.length all).foldl step
    [0x67452301, 0xefcdab89, 0x98badcfe, 0x10325476, 0xc3d2e1f0]
  last.flatMap fun w => bytesOf 4 w.toNat

/-! ## Digests of eight words -/

/-- The numbers that are added in turn. -/
def sha256Table : Array UInt32 :=
  #[
    0x428a2f98, 0x71374491, 0xb5c0fbcf, 0xe9b5dba5, 0x3956c25b, 0x59f111f1, 0x923f82a4, 0xab1c5ed5,
    0xd807aa98, 0x12835b01, 0x243185be, 0x550c7dc3, 0x72be5d74, 0x80deb1fe, 0x9bdc06a7, 0xc19bf174,
    0xe49b69c1, 0xefbe4786, 0x0fc19dc6, 0x240ca1cc, 0x2de92c6f, 0x4a7484aa, 0x5cb0a9dc, 0x76f988da,
    0x983e5152, 0xa831c66d, 0xb00327c8, 0xbf597fc7, 0xc6e00bf3, 0xd5a79147, 0x06ca6351, 0x14292967,
    0x27b70a85, 0x2e1b2138, 0x4d2c6dfc, 0x53380d13, 0x650a7354, 0x766a0abb, 0x81c2c92e, 0x92722c85,
    0xa2bfe8a1, 0xa81a664b, 0xc24b8b70, 0xc76c51a3, 0xd192e819, 0xd6990624, 0xf40e3585, 0x106aa070,
    0x19a4c116, 0x1e376c08, 0x2748774c, 0x34b0bcb5, 0x391c0cb3, 0x4ed8aa4a, 0x5b9cca4f, 0x682e6ff3,
    0x748f82ee, 0x78a5636f, 0x84c87814, 0x8cc70208, 0x90befffa, 0xa4506ceb, 0xbef9a3f7, 0xc67178f2]

/-- Words with those that are made of them behind. -/
def sha256Words (block : Bytes) : Array UInt32 :=
  let first := ((inPieces 4 64 block).map fun w => (numberOf w).toUInt32).toArray
  (List.range 48).foldl
    (fun ws k =>
      let i := k + 16
      let x := ws.getD (i - 15) 0
      let y := ws.getD (i - 2) 0
      let s0 := turnRight x 7 ^^^ turnRight x 18 ^^^ (x >>> 3)
      let s1 := turnRight y 17 ^^^ turnRight y 19 ^^^ (y >>> 10)
      ws.push (ws.getD (i - 16) 0 + s0 + ws.getD (i - 7) 0 + s1))
    first

/-- One round on eight words. -/
def sha256Round (words : Array UInt32) (s : List UInt32) (i : Nat) : List UInt32 :=
  match s with
  | [a, b, c, d, e, f, g, h] =>
    let s1 := turnRight e 6 ^^^ turnRight e 11 ^^^ turnRight e 25
    let chosen := (e &&& f) ^^^ (~~~e &&& g)
    let x := h + s1 + chosen + sha256Table.getD i 0 + words.getD i 0
    let s0 := turnRight a 2 ^^^ turnRight a 13 ^^^ turnRight a 22
    let most := (a &&& b) ^^^ (a &&& c) ^^^ (b &&& c)
    [x + s0 + most, a, b, c, d + x, e, f, g]
  | s => s

/-- The digest of eight words, from the words that it starts with. -/
def shaWords (first : List UInt32) (bs : Bytes) : Bytes :=
  let all := padded 64 8 false bs
  let step (s : List UInt32) (block : Bytes) : List UInt32 :=
    List.zipWith (· + ·) s ((List.range 64).foldl (sha256Round (sha256Words block)) s)
  ((inPieces 64 all.length all).foldl step first).flatMap fun w => bytesOf 4 w.toNat

/-- The digest of eight words. -/
def sha256 : Bytes → Bytes :=
  shaWords [0x6a09e667, 0xbb67ae85, 0x3c6ef372, 0xa54ff53a, 0x510e527f, 0x9b05688c, 0x1f83d9ab, 0x5be0cd19]

/-- The first seven of eight words. -/
def sha224 (bs : Bytes) : Bytes :=
  (shaWords [0xc1059ed8, 0x367cd507, 0x3070dd17, 0xf70e5939, 0xffc00b31, 0x68581511, 0x64f98fa7, 0xbefa4fa4]
    bs).take 28

/-! ## Digests of eight long words -/

/-- The numbers that are added in turn. -/
def sha512Table : Array UInt64 :=
  #[
    0x428a2f98d728ae22, 0x7137449123ef65cd, 0xb5c0fbcfec4d3b2f, 0xe9b5dba58189dbbc,
    0x3956c25bf348b538, 0x59f111f1b605d019, 0x923f82a4af194f9b, 0xab1c5ed5da6d8118,
    0xd807aa98a3030242, 0x12835b0145706fbe, 0x243185be4ee4b28c, 0x550c7dc3d5ffb4e2,
    0x72be5d74f27b896f, 0x80deb1fe3b1696b1, 0x9bdc06a725c71235, 0xc19bf174cf692694,
    0xe49b69c19ef14ad2, 0xefbe4786384f25e3, 0x0fc19dc68b8cd5b5, 0x240ca1cc77ac9c65,
    0x2de92c6f592b0275, 0x4a7484aa6ea6e483, 0x5cb0a9dcbd41fbd4, 0x76f988da831153b5,
    0x983e5152ee66dfab, 0xa831c66d2db43210, 0xb00327c898fb213f, 0xbf597fc7beef0ee4,
    0xc6e00bf33da88fc2, 0xd5a79147930aa725, 0x06ca6351e003826f, 0x142929670a0e6e70,
    0x27b70a8546d22ffc, 0x2e1b21385c26c926, 0x4d2c6dfc5ac42aed, 0x53380d139d95b3df,
    0x650a73548baf63de, 0x766a0abb3c77b2a8, 0x81c2c92e47edaee6, 0x92722c851482353b,
    0xa2bfe8a14cf10364, 0xa81a664bbc423001, 0xc24b8b70d0f89791, 0xc76c51a30654be30,
    0xd192e819d6ef5218, 0xd69906245565a910, 0xf40e35855771202a, 0x106aa07032bbd1b8,
    0x19a4c116b8d2d0c8, 0x1e376c085141ab53, 0x2748774cdf8eeb99, 0x34b0bcb5e19b48a8,
    0x391c0cb3c5c95a63, 0x4ed8aa4ae3418acb, 0x5b9cca4f7763e373, 0x682e6ff3d6b2b8a3,
    0x748f82ee5defb2fc, 0x78a5636f43172f60, 0x84c87814a1f0ab72, 0x8cc702081a6439ec,
    0x90befffa23631e28, 0xa4506cebde82bde9, 0xbef9a3f7b2c67915, 0xc67178f2e372532b,
    0xca273eceea26619c, 0xd186b8c721c0c207, 0xeada7dd6cde0eb1e, 0xf57d4f7fee6ed178,
    0x06f067aa72176fba, 0x0a637dc5a2c898a6, 0x113f9804bef90dae, 0x1b710b35131c471b,
    0x28db77f523047d84, 0x32caab7b40c72493, 0x3c9ebe0a15c9bebc, 0x431d67c49c100d4c,
    0x4cc5d4becb3e42b6, 0x597f299cfc657e2a, 0x5fcb6fab3ad6faec, 0x6c44198c4a475817]

/-- Words with those that are made of them behind. -/
def sha512Words (block : Bytes) : Array UInt64 :=
  let first := ((inPieces 8 128 block).map fun w => (numberOf w).toUInt64).toArray
  (List.range 64).foldl
    (fun ws k =>
      let i := k + 16
      let x := ws.getD (i - 15) 0
      let y := ws.getD (i - 2) 0
      let s0 := turnRightLong x 1 ^^^ turnRightLong x 8 ^^^ (x >>> 7)
      let s1 := turnRightLong y 19 ^^^ turnRightLong y 61 ^^^ (y >>> 6)
      ws.push (ws.getD (i - 16) 0 + s0 + ws.getD (i - 7) 0 + s1))
    first

/-- One round on eight long words. -/
def sha512Round (words : Array UInt64) (s : List UInt64) (i : Nat) : List UInt64 :=
  match s with
  | [a, b, c, d, e, f, g, h] =>
    let s1 := turnRightLong e 14 ^^^ turnRightLong e 18 ^^^ turnRightLong e 41
    let chosen := (e &&& f) ^^^ (~~~e &&& g)
    let x := h + s1 + chosen + sha512Table.getD i 0 + words.getD i 0
    let s0 := turnRightLong a 28 ^^^ turnRightLong a 34 ^^^ turnRightLong a 39
    let most := (a &&& b) ^^^ (a &&& c) ^^^ (b &&& c)
    [x + s0 + most, a, b, c, d + x, e, f, g]
  | s => s

/-- The digest of eight long words, from the words that it starts with. -/
def shaLongWords (first : List UInt64) (bs : Bytes) : Bytes :=
  let all := padded 128 16 false bs
  let step (s : List UInt64) (block : Bytes) : List UInt64 :=
    List.zipWith (· + ·) s ((List.range 80).foldl (sha512Round (sha512Words block)) s)
  ((inPieces 128 all.length all).foldl step first).flatMap fun w => bytesOf 8 w.toNat

/-- The words that digests of eight long words start with. -/
def sha512Start : List UInt64 :=
  [0x6a09e667f3bcc908, 0xbb67ae8584caa73b, 0x3c6ef372fe94f82b, 0xa54ff53a5f1d36f1,
    0x510e527fade682d1, 0x9b05688c2b3e6c1f, 0x1f83d9abfb41bd6b, 0x5be0cd19137e2179]

/-- The digest of eight long words. -/
def sha512 : Bytes → Bytes := shaLongWords sha512Start

/-- The first six of eight long words. -/
def sha384 (bs : Bytes) : Bytes :=
  (shaLongWords
    [0xcbbb9d5dc1059ed8, 0x629a292a367cd507, 0x9159015a3070dd17, 0x152fecd8f70e5939,
      0x67332667ffc00b31, 0x8eb44a8768581511, 0xdb0c2e0d64f98fa7, 0x47b5481dbefa4fa4] bs).take 48

/-! ## Mixed long words -/

/-- The orders in which the words of a block are mixed in. -/
def mixOrders : Array (Array Nat) :=
  #[#[0, 1, 2, 3, 4, 5, 6, 7, 8, 9, 10, 11, 12, 13, 14, 15],
    #[14, 10, 4, 8, 9, 15, 13, 6, 1, 12, 0, 2, 11, 7, 5, 3],
    #[11, 8, 12, 0, 5, 2, 15, 13, 10, 14, 3, 6, 7, 1, 9, 4],
    #[7, 9, 3, 1, 13, 12, 11, 14, 2, 6, 5, 10, 4, 0, 15, 8],
    #[9, 0, 5, 7, 2, 4, 10, 15, 14, 1, 11, 12, 6, 8, 3, 13],
    #[2, 12, 6, 10, 0, 11, 8, 3, 4, 13, 7, 5, 15, 14, 1, 9],
    #[12, 5, 1, 15, 14, 13, 4, 10, 0, 7, 6, 3, 9, 2, 8, 11],
    #[13, 11, 7, 14, 12, 1, 3, 9, 5, 0, 15, 4, 8, 6, 2, 10],
    #[6, 15, 14, 9, 11, 3, 0, 8, 12, 2, 13, 7, 1, 4, 10, 5],
    #[10, 2, 8, 4, 7, 6, 1, 5, 15, 11, 9, 14, 3, 12, 13, 0]]

/-- The places of four words that are mixed together. -/
def mixPlaces : List (Nat × Nat × Nat × Nat) :=
  [(0, 4, 8, 12), (1, 5, 9, 13), (2, 6, 10, 14), (3, 7, 11, 15), (0, 5, 10, 15), (1, 6, 11, 12),
    (2, 7, 8, 13), (3, 4, 9, 14)]

/-- Mixes two words of a block into four of sixteen. -/
def mixFour (v : Array UInt64) (places : Nat × Nat × Nat × Nat) (x y : UInt64) : Array UInt64 :=
  let (i, j, k, l) := places
  let a := v.getD i 0 + v.getD j 0 + x
  let d := turnRightLong (v.getD l 0 ^^^ a) 32
  let c := v.getD k 0 + d
  let b := turnRightLong (v.getD j 0 ^^^ c) 24
  let a := a + b + y
  let d := turnRightLong (d ^^^ a) 16
  let c := c + d
  let b := turnRightLong (b ^^^ c) 63
  (((v.setIfInBounds i a).setIfInBounds j b).setIfInBounds k c).setIfInBounds l d

/-- One round on sixteen words. -/
def mixRound (words : Array UInt64) (v : Array UInt64) (round : Nat) : Array UInt64 :=
  let order := mixOrders.getD (round % 10) #[]
  mixPlaces.zipIdx.foldl
    (fun v (places, i) =>
      mixFour v places (words.getD (order.getD (2 * i) 0) 0) (words.getD (order.getD (2 * i + 1) 0) 0)) v

/-- Mixes a block into eight words; `count` is the number of bytes so far. -/
def mixBlock (h : List UInt64) (block : Bytes) (count : Nat) (isLast : Bool) : List UInt64 :=
  let whole := block ++ List.replicate (128 - block.length) 0
  let words := ((inPieces 8 128 whole).map fun w => (numberOf w.reverse).toUInt64).toArray
  let v := (h ++ sha512Start).toArray
  let v := v.setIfInBounds 12 (v.getD 12 0 ^^^ count.toUInt64)
  let v := if isLast then v.setIfInBounds 14 (~~~ v.getD 14 0) else v
  let v := (List.range 12).foldl (mixRound words) v
  h.zipIdx.map fun (x, i) => x ^^^ v.getD i 0 ^^^ v.getD (i + 8) 0

/-- The digest of eight long words by mixing. -/
def blake2 (bs : Bytes) : Bytes :=
  let first := sha512Start.zipIdx.map fun (x, i) => if i == 0 then x ^^^ 0x01010040 else x
  let blocks := if bs.isEmpty then [[]] else inPieces 128 bs.length bs
  let last := blocks.zipIdx.foldl
    (fun h (block, i) => mixBlock h block (i * 128 + block.length) (i + 1 == blocks.length)) first
  last.flatMap fun w => (bytesOf 8 w.toNat).reverse

/-! ## Remainders -/

/-- The remainder after one more byte. -/
def checksumByte (crc : UInt32) (b : UInt8) : UInt32 :=
  (List.range 8).foldl
    (fun c _ => if c &&& 0x80000000 != 0 then (c <<< 1) ^^^ 0x04c11db7 else c <<< 1)
    (crc ^^^ (b.toUInt32 <<< 24))

/-- The bytes of a length, the lowest first, without zeros at the end. `fuel` is at least their number. -/
def lengthBytes : Nat → Nat → Bytes
  | 0, _ => []
  | fuel + 1, n => if n == 0 then [] else UInt8.ofNat (n % 256) :: lengthBytes fuel (n / 256)

/-- The remainder of bytes and their number. -/
def checksum (bs : Bytes) : UInt32 :=
  ~~~((bs ++ lengthBytes 8 bs.length).foldl checksumByte 0)

/-! ## Programs -/

/-- Bytes in base sixteen. -/
def hexText (bs : Bytes) : String :=
  String.ofList (bs.flatMap fun b =>
    [b.toNat / 16, b.toNat % 16].map fun d => "0123456789abcdef".toList.getD d '0')

/-- The digest, the mark and the name of a line that is to be checked. -/
def checkedLine? (line : String) : Option (String × String) :=
  let cs := if line.startsWith "\\" then line.toList.drop 1 else line.toList
  let digits := cs.takeWhile fun c => c.isDigit || ('a' ≤ c.toLower && c.toLower ≤ 'f')
  match cs.drop digits.length with
  | ' ' :: mark :: name =>
    if digits.isEmpty || name.isEmpty || (mark != ' ' && mark != '*') then none
    else some (String.ofList (digits.map Char.toLower), String.ofList name)
  | _ => none

/-- Checks the digests that files hold. -/
def checkDigests (program : String) (digest : Bytes → Bytes) (o : Options) : Program := fun j => do
  let g ← j.gather program o.operands
  let size := 2 * (digest []).length
  let mut out := ""
  let mut err := Text.decode g.err
  let mut wrong := 0
  let mut unread := 0
  let mut unlike := 0
  for source in g.sources do
    for line in textLines source.bytes do
      match (checkedLine? line).filter fun (text, _) => text.length == size with
      | none => unlike := unlike + 1
      | some (text, name) =>
        match ← j.read name with
        | .error fault =>
          unread := unread + 1
          err := err ++ program ++ ": " ++ name ++ ": " ++ fault.phrase ++ "\n"
          if !o.has 's' then out := out ++ name ++ ": FAILED open or read\n"
        | .ok bytes =>
          if hexText (digest bytes) == text then
            if !o.has 's' && !o.has 'q' then out := out ++ name ++ ": OK\n"
          else
            wrong := wrong + 1
            if !o.has 's' then out := out ++ name ++ ": FAILED\n"
  let count (n : Nat) (one more : String) : String := Nat.repr n ++ " " ++ (if n == 1 then one else more)
  let warn (n : Nat) (one more : String) : String :=
    if n == 0 || o.has 's' then "" else program ++ ": WARNING: " ++ count n one more ++ "\n"
  err := err ++ warn unlike "line is improperly formatted" "lines are improperly formatted" ++
    warn unread "listed file could not be read" "listed files could not be read" ++
    warn wrong "computed checksum did NOT match" "computed checksums did NOT match"
  return { out := Text.bytes out, err := Text.bytes err, rest := g.rest
           status := .exited (if wrong + unread == 0 && g.err.isEmpty then 0 else 1) }

/-- Writes the digests of files, or checks them; `label` names the kind of digest. -/
def digestProgram (program label : String) (digest : Bytes → Bytes) : Program := withOptions
  { program, plain := "bctzTqsw"
    names := [("binary", 'b'), ("text", 't'), ("zero", 'z'), ("check", 'c'), ("tag", 'T'), ("quiet", 'q'),
      ("status", 's'), ("warn", 'w')] }
  fun o j => do
    if o.has 'c' then checkDigests program digest o j
    else
      let g ← j.gather program o.operands
      let ending := if o.has 'z' then "\x00" else "\n"
      let line (s : Source) : String :=
        let text := hexText (digest s.bytes)
        if o.has 'T' then label ++ " (" ++ s.name ++ ") = " ++ text ++ ending
        else text ++ (if o.has 'b' then " *" else "  ") ++ s.name ++ ending
      return g.finish (Text.bytes (String.join (g.sources.map line)))

/-- The kinds of digests, and what they are called. -/
def digestKinds : List (String × String × (Bytes → Bytes)) :=
  [("md5", "MD5", md5), ("sha1", "SHA1", sha1), ("sha224", "SHA224", sha224), ("sha256", "SHA256", sha256),
    ("sha384", "SHA384", sha384), ("sha512", "SHA512", sha512), ("blake2b", "BLAKE2b", blake2)]

/-- A sum of bytes that is turned before each. -/
def turnedSum (bs : Bytes) : Nat :=
  bs.foldl (fun sum b => ((sum / 2 + sum % 2 * 0x8000) + b.toNat) % 0x10000) 0

/-- A plain sum of bytes, folded to sixteen bits. -/
def plainSum (bs : Bytes) : Nat :=
  let total := bs.foldl (fun sum b => sum + b.toNat) 0 % 0x100000000
  let once := total % 0x10000 + total / 0x10000
  once % 0x10000 + once / 0x10000

/-- A sum and a number of blocks. -/
def sumText (plain : Bool) (bs : Bytes) : String :=
  if plain then Nat.repr (plainSum bs) ++ " " ++ Nat.repr ((bs.length + 511) / 512)
  else
    let sum := Nat.repr (turnedSum bs)
    String.ofList (List.replicate (5 - sum.length) '0') ++ sum ++ " " ++
      padLeft 5 (Nat.repr ((bs.length + 1023) / 1024))

/-- Writes the sums and blocks of files. -/
def sum : Program := withOptions { program := "sum", plain := "rs", names := [("sysv", 's')] } fun o j => do
  let g ← j.gather "sum" o.operands
  let line (s : Source) : String :=
    sumText (o.has 's') s.bytes ++ (if o.operands.isEmpty then "" else " " ++ s.name) ++ "\n"
  return g.finish (Text.bytes (String.join (g.sources.map line)))

/-- Writes the remainders and sizes of files, or digests of a kind. -/
def cksum : Program := withOptions
  { program := "cksum", plain := "u", valued := "a", names := [("algorithm", 'a'), ("untagged", 'u')] }
  fun o j => do
    let g ← j.gather "cksum" o.operands
    let named (s : Source) : String := if o.operands.isEmpty then "" else " " ++ s.name
    let kind := (o.value? 'a').getD "crc"
    let line (s : Source) : Option String :=
      match kind, digestKinds.lookup kind with
      | "crc", _ => some (Nat.repr (checksum s.bytes).toNat ++ " " ++ Nat.repr s.bytes.length ++ named s)
      | "bsd", _ => some (sumText false s.bytes ++ named s)
      | "sysv", _ => some (sumText true s.bytes ++ named s)
      | _, some (label, digest) =>
        let text := hexText (digest s.bytes)
        some (if o.has 'u' then text ++ "  " ++ s.name else label ++ " (" ++ s.name ++ ") = " ++ text)
      | _, none => none
    match g.sources.mapM line with
    | some lines => return g.finish (Text.bytes (String.join (lines.map (· ++ "\n"))))
    | none =>
      j.refuse 1 ("cksum: invalid argument " ++ Text.quoted kind ++ " for '--algorithm'\nValid arguments are:\n" ++
        String.join (["bsd", "sysv", "crc", "md5", "sha1", "sha224", "sha256", "sha384", "sha512", "blake2b",
          "sm3"].map fun k => "  - '" ++ k ++ "'\n") ++ "Try 'cksum --help' for more information.")

end Recap.Tool
