/-!
# The checksum of compressed files

The 32-bit hash xxHash with seed zero. Sixteen bytes at a time go into four lanes, which are then
merged; what is left goes in by four bytes and then by one.
-/

namespace Concordance.Lz4

/-- The constants of the hash. -/
def prime1 : UInt32 := 0x9E3779B1

@[inherit_doc prime1]
def prime2 : UInt32 := 0x85EBCA77

@[inherit_doc prime1]
def prime3 : UInt32 := 0xC2B2AE3D

@[inherit_doc prime1]
def prime4 : UInt32 := 0x27D4EB2F

@[inherit_doc prime1]
def prime5 : UInt32 := 0x165667B1

def rotate (x n : UInt32) : UInt32 :=
  (x <<< n) ||| (x >>> (32 - n))

/-- The numbers of 32 bits that bytes stand for, and the bytes left over. -/
def words32 : List UInt8 → List UInt32 × List UInt8
  | a :: b :: c :: d :: rest =>
    let (words, left) := words32 rest
    (UInt32.ofNat (a.toNat + 256 * (b.toNat + 256 * (c.toNat + 256 * d.toNat))) :: words, left)
  | rest => ([], rest)

structure Lanes where
  a : UInt32
  b : UInt32
  c : UInt32
  d : UInt32

def mixLane (lane word : UInt32) : UInt32 :=
  rotate (lane + word * prime2) 13 * prime1

/-- Mixes in words by four, and gives those that are left. -/
def mixLanes (lanes : Lanes) : List UInt32 → Lanes × List UInt32
  | a :: b :: c :: d :: rest =>
    mixLanes ⟨mixLane lanes.a a, mixLane lanes.b b, mixLane lanes.c c, mixLane lanes.d d⟩ rest
  | rest => (lanes, rest)

/-- The lanes made one. -/
def mergeLanes (lanes : Lanes) : UInt32 :=
  rotate lanes.a 1 + rotate lanes.b 7 + rotate lanes.c 12 + rotate lanes.d 18

def avalanche (hash : UInt32) : UInt32 :=
  let hash := (hash ^^^ (hash >>> 15)) * prime2
  let hash := (hash ^^^ (hash >>> 13)) * prime3
  hash ^^^ (hash >>> 16)

def checksum (bytes : List UInt8) : UInt32 :=
  let (words, left) := words32 bytes
  let (start, words) :=
    if words.length < 4 then (prime5, words)
    else
      let (lanes, words) := mixLanes ⟨prime1 + prime2, prime2, 0, 0 - prime1⟩ words
      (mergeLanes lanes, words)
  let hash := words.foldl (fun hash word => rotate (hash + word * prime3) 17 * prime4)
    (start + UInt32.ofNat bytes.length)
  avalanche (left.foldl (fun hash byte => rotate (hash + byte.toUInt32 * prime5) 11 * prime1) hash)

end Concordance.Lz4
