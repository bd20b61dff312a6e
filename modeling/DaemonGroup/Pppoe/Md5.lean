import Mathlib.Data.List.Basic

/-!
# DaemonGroup.Pppoe.Md5

The message digest of `md5.c`. `MD5Init`, a sequence of `MD5Update` calls and `MD5Final` digest the
concatenation of the buffers given to `MD5Update`, so the digest is one function of that
concatenation. Words are natural numbers below `2 ^ 32`; a block is sixteen of them, read from the
bytes least significant first (`byteReverse`).
-/

namespace DaemonGroup
namespace Pppoe
namespace Md5

def word (n : Nat) : Nat := n % 4294967296

def compl (n : Nat) : Nat := n ^^^ 0xffffffff

def F1 (x y z : Nat) : Nat := z ^^^ (x &&& (y ^^^ z))

def F2 (x y z : Nat) : Nat := F1 z x y

def F3 (x y z : Nat) : Nat := x ^^^ y ^^^ z

def F4 (x y z : Nat) : Nat := y ^^^ (x ||| compl z)

/-- `buf` of the context: the four chaining words, in the order `MD5STEP` takes them. -/
structure Buf where
  w : Nat
  x : Nat
  y : Nat
  z : Nat
deriving DecidableEq, Repr

/-- `MD5STEP`. The step after it takes the words in the order `z, w, x, y`. -/
def md5Step (f : Nat → Nat → Nat → Nat) (data s : Nat) (b : Buf) : Buf :=
  let w := word (b.w + f b.x b.y b.z + data)
  let r := word (w <<< s) ||| (w >>> (32 - s))
  { w := b.z, x := word (r + b.x), y := b.x, z := b.y }

/-- One round: sixteen steps with one function, each naming its word of the block, its constant
and its rotation. -/
def round (f : Nat → Nat → Nat → Nat) (blk : List Nat) (steps : List (Nat × Nat × Nat))
    (b : Buf) : Buf :=
  steps.foldl (fun b t => md5Step f (blk.getD t.1 0 + t.2.1) t.2.2 b) b

def steps1 : List (Nat × Nat × Nat) :=
  [(0, 0xd76aa478, 7), (1, 0xe8c7b756, 12), (2, 0x242070db, 17), (3, 0xc1bdceee, 22),
    (4, 0xf57c0faf, 7), (5, 0x4787c62a, 12), (6, 0xa8304613, 17), (7, 0xfd469501, 22),
    (8, 0x698098d8, 7), (9, 0x8b44f7af, 12), (10, 0xffff5bb1, 17), (11, 0x895cd7be, 22),
    (12, 0x6b901122, 7), (13, 0xfd987193, 12), (14, 0xa679438e, 17), (15, 0x49b40821, 22)]

def steps2 : List (Nat × Nat × Nat) :=
  [(1, 0xf61e2562, 5), (6, 0xc040b340, 9), (11, 0x265e5a51, 14), (0, 0xe9b6c7aa, 20),
    (5, 0xd62f105d, 5), (10, 0x02441453, 9), (15, 0xd8a1e681, 14), (4, 0xe7d3fbc8, 20),
    (9, 0x21e1cde6, 5), (14, 0xc33707d6, 9), (3, 0xf4d50d87, 14), (8, 0x455a14ed, 20),
    (13, 0xa9e3e905, 5), (2, 0xfcefa3f8, 9), (7, 0x676f02d9, 14), (12, 0x8d2a4c8a, 20)]

def steps3 : List (Nat × Nat × Nat) :=
  [(5, 0xfffa3942, 4), (8, 0x8771f681, 11), (11, 0x6d9d6122, 16), (14, 0xfde5380c, 23),
    (1, 0xa4beea44, 4), (4, 0x4bdecfa9, 11), (7, 0xf6bb4b60, 16), (10, 0xbebfbc70, 23),
    (13, 0x289b7ec6, 4), (0, 0xeaa127fa, 11), (3, 0xd4ef3085, 16), (6, 0x04881d05, 23),
    (9, 0xd9d4d039, 4), (12, 0xe6db99e5, 11), (15, 0x1fa27cf8, 16), (2, 0xc4ac5665, 23)]

def steps4 : List (Nat × Nat × Nat) :=
  [(0, 0xf4292244, 6), (7, 0x432aff97, 10), (14, 0xab9423a7, 15), (5, 0xfc93a039, 21),
    (12, 0x655b59c3, 6), (3, 0x8f0ccc92, 10), (10, 0xffeff47d, 15), (1, 0x85845dd1, 21),
    (8, 0x6fa87e4f, 6), (15, 0xfe2ce6e0, 10), (6, 0xa3014314, 15), (13, 0x4e0811a1, 21),
    (4, 0xf7537e82, 6), (11, 0xbd3af235, 10), (2, 0x2ad7d2bb, 15), (9, 0xeb86d391, 21)]

/-- `MD5Transform`. -/
def md5Transform (b : Buf) (blk : List Nat) : Buf :=
  let r := round F4 blk steps4 (round F3 blk steps3 (round F2 blk steps2 (round F1 blk steps1 b)))
  { w := word (b.w + r.w), x := word (b.x + r.x), y := word (b.y + r.y), z := word (b.z + r.z) }

def init : Buf :=
  { w := 0x67452301, x := 0xefcdab89, y := 0x98badcfe, z := 0x10325476 }

/-- Four bytes as a word, least significant byte first. -/
def leWord : List UInt8 → Nat
  | a :: b :: c :: d :: _ =>
    a.toNat + b.toNat * 256 + c.toNat * 65536 + d.toNat * 16777216
  | _ => 0

/-- The bytes of a word, least significant byte first. -/
def leBytes (n : Nat) : List UInt8 :=
  [UInt8.ofNat (n % 256), UInt8.ofNat (n / 256 % 256), UInt8.ofNat (n / 65536 % 256),
    UInt8.ofNat (n / 16777216 % 256)]

def words : Nat → List UInt8 → List Nat
  | 0, _ => []
  | n + 1, bs => leWord bs :: words n (bs.drop 4)

/-- The transform over the first `n` blocks of 64 bytes. -/
def blocks : Nat → Buf → List UInt8 → Buf
  | 0, b, _ => b
  | n + 1, b, bs => blocks n (md5Transform b (words 16 bs)) (bs.drop 64)

/-- `MD5Final`'s padding: a byte `0x80`, zeros up to 56 modulo 64, the bit count. -/
def pad (bs : List UInt8) : List UInt8 :=
  let zeros := (119 - bs.length % 64) % 64
  let bits := bs.length * 8
  bs ++ [0x80] ++ List.replicate zeros 0 ++
    leBytes (bits % 4294967296) ++ leBytes (bits / 4294967296 % 4294967296)

/-- The 16 bytes that `MD5Final` leaves after `bs` was given to `MD5Update`. -/
def md5 (bs : List UInt8) : List UInt8 :=
  let p := pad bs
  let b := blocks (p.length / 64) init p
  leBytes b.w ++ leBytes b.x ++ leBytes b.y ++ leBytes b.z

end Md5
end Pppoe
end DaemonGroup
