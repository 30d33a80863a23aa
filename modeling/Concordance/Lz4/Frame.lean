import Concordance.Lz4.Block
import Concordance.Lz4.Checksum

/-!
# Frames

A frame holds bytes in blocks, compressed or as they are, behind a header that tells how large a block
may be and whether blocks refer to one another. Reading gives the bytes of the blocks up to the first
one that is damaged; whoever needs more bytes than there are finds out. Writing leaves the bytes as
they are.
-/

namespace Concordance.Lz4

structure Header where
  /-- Blocks refer to those before them. -/
  linked : Bool
  /-- A checksum stands behind every block. -/
  checked : Bool
  /-- The greatest number of bytes of a block. -/
  maxBlock : Nat
deriving DecidableEq, Repr

def frameMark : Nat := 0x184D2204

/-- The number that a frame of an older kind begins with. -/
def oldFrameMark : Nat := 0x184C2102

/-- The checksum of the description of a frame, as one byte. -/
def headerChecksum (description : List UInt8) : UInt8 :=
  ((checksum description) >>> 8).toUInt8

/-- The header that two bytes describe, if they are in order: the second byte tells the size of blocks,
and dictionaries are not known. -/
def describe? (flags size : UInt8) : Option Header :=
  let code := size.toNat / 16
  if flags &&& 0xC0 ≠ 0x40 ∨ flags &&& 0x03 ≠ 0 ∨ size &&& 0x8F ≠ 0 ∨ code < 4 then none
  else some ⟨flags &&& 0x20 = 0, flags &&& 0x10 ≠ 0, Nat.pow 2 (2 * code + 8)⟩

def readHeader? (bytes : List UInt8) : Option (Header × List UInt8) := do
  let (mark, rest) ← readNumber? 4 bytes
  if mark = oldFrameMark then return (⟨false, false, 0x800000⟩, rest)
  else if mark ≠ frameMark then none
  else
    match rest with
    | flags :: size :: _ =>
      let header ← describe? flags size
      let (description, rest) ← takeBytes? (if flags &&& 0x08 = 0 then 2 else 10) rest
      match rest with
      | check :: rest => if check = headerChecksum description then return (header, rest) else none
      | [] => none
    | _ => none

/-- A block at the front of bytes: whether it is compressed, its bytes, and the bytes behind it. There is
none if the end of the frame is marked. -/
def takeBlock? (header : Header) (bytes : List UInt8) : Option (Bool × List UInt8 × List UInt8) := do
  let (size, rest) ← readNumber? 4 bytes
  let length := size % 0x80000000
  if size = 0 ∨ header.maxBlock < length then none
  else
    let (block, rest) ← takeBytes? length rest
    if !header.checked then return (size < 0x80000000, block, rest)
    else
      let (check, rest) ← readNumber? 4 rest
      if check = (checksum block).toNat then return (size < 0x80000000, block, rest) else none

/-! ### Linked blocks -/

/-- How far back a block can refer. -/
def window : Nat := 65536

/-- Where a linked block goes. Blocks are written one behind the other into a space of two blocks and a
window. Where a further one might not fit, writing begins anew at the start of the space, and what was
written last is kept as the window until as much stands before it again. -/
structure Place where
  /-- The number of bytes before it in the space. -/
  start : Nat
  /-- The number of bytes that fit between what is written and the window that is kept. -/
  room : Nat
deriving DecidableEq, Repr

namespace Place

def first (maxBlock : Nat) : Place := ⟨0, maxBlock⟩

/-- The place after a move to the start of the space, if one is needed. -/
def settle (maxBlock : Nat) (place : Place) : Place :=
  if maxBlock + window < place.start then ⟨0, place.start - window⟩ else place

def limit (maxBlock : Nat) (place : Place) : Nat :=
  if place.start < window then place.room else maxBlock

/-- The place behind a block of `count` bytes. -/
def advance (count : Nat) (place : Place) : Place :=
  { place with start := place.start + count }

end Place

/-! ### Reading -/

/-- The bytes that a block stands for, behind those of `out`. -/
def addBlock? (header : Header) (place : Place) (out : Array UInt8) (compressed : Bool)
    (block : List UInt8) : Option (Array UInt8) :=
  if !compressed then some (block.foldl Array.push out)
  else if header.linked then readBlock? (out.size + place.limit header.maxBlock) out block
  else (readBlock? header.maxBlock #[] block).map fun bytes => out ++ bytes

/-- Adds the bytes of the blocks up to the first one that is damaged or empty. There are at most as many
blocks as bytes. -/
def readBlocks (header : Header) : (fuel : Nat) → Place → Array UInt8 → List UInt8 → Array UInt8
  | 0, _, out, _ => out
  | fuel + 1, place, out, bytes =>
    match takeBlock? header bytes with
    | none => out
    | some (compressed, block, rest) =>
      let place := place.settle header.maxBlock
      match addBlock? header place out compressed block with
      | none => out
      | some more =>
        if more.size = out.size then out
        else readBlocks header fuel (place.advance (more.size - out.size)) more rest

/-- The bytes that a frame holds, as far as it is not damaged. -/
def readFrame (bytes : List UInt8) : List UInt8 :=
  match readHeader? bytes with
  | none => []
  | some (header, rest) => (readBlocks header rest.length (.first header.maxBlock) #[] rest).toList

/-! ### Writing -/

/-- The description of the frames that are written: blocks that do not refer to one another. -/
def writtenDescription : List UInt8 := [0x60, 0x40]

/-- One less than the greatest number of bytes of a block that is written. -/
def writtenBlock : Nat := 65535

def writeBlocks : List UInt8 → List UInt8
  | [] => []
  | b :: rest =>
    let block := b :: rest.take writtenBlock
    littleEndian 4 (0x80000000 + block.length) ++ block ++ writeBlocks (rest.drop writtenBlock)
termination_by bytes => bytes.length
decreasing_by
  simp only [List.length_drop, List.length_cons]
  omega

def writeFrame (bytes : List UInt8) : List UInt8 :=
  littleEndian 4 frameMark ++ writtenDescription ++ [headerChecksum writtenDescription] ++
    writeBlocks bytes ++ [0, 0, 0, 0]

end Concordance.Lz4
