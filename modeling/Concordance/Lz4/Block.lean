import Concordance.Binary.Codec

/-!
# Compressed blocks

A block is a row of sequences: some bytes that stand for themselves, and then, except in the last
sequence, a stretch of at least four bytes to be copied from what has been read before.
-/

namespace Concordance.Lz4

/-- The rest of a length that began with fifteen: bytes are added up to the first one below 255. -/
def readLength? : List UInt8 → Option (Nat × List UInt8)
  | [] => none
  | b :: rest =>
    if b = 255 then (readLength? rest).map fun (n, rest) => (255 + n, rest) else some (b.toNat, rest)

/-- A length of which `start`, at most fifteen, is known. -/
def fullLength? (start : Nat) (bytes : List UInt8) : Option (Nat × List UInt8) :=
  if start < 15 then some (start, bytes)
  else (readLength? bytes).map fun (n, rest) => (start + n, rest)

/-- `out` with `count` bytes copied to its end, each from `offset` places before the end. -/
def copyBack (offset : Nat) : (count : Nat) → Array UInt8 → Array UInt8
  | 0, out => out
  | count + 1, out => copyBack offset count (out.push (out[out.size - offset]?.getD 0))

/-- Reads the sequences of a block; `out` holds what has been read and may grow to `limit` bytes. There
are at most as many sequences as bytes. -/
def readSequences? (limit : Nat) : (fuel : Nat) → Array UInt8 → List UInt8 → Option (Array UInt8)
  | 0, _, _ => none
  | _ + 1, _, [] => none
  | fuel + 1, out, token :: rest => do
    let (count, rest) ← fullLength? (token.toNat / 16) rest
    let (literals, rest) ← takeBytes? count rest
    let out := literals.foldl Array.push out
    if limit < out.size then none
    else
      match rest with
      | [] => return out
      | low :: high :: rest =>
        let offset := low.toNat + 256 * high.toNat
        let (count, rest) ← fullLength? (token.toNat % 16) rest
        if offset = 0 ∨ out.size < offset ∨ limit < out.size + (count + 4) then none
        else readSequences? limit fuel (copyBack offset (count + 4) out) rest
      | [_] => none

def readBlock? (limit : Nat) (out : Array UInt8) (block : List UInt8) : Option (Array UInt8) :=
  readSequences? limit block.length out block

end Concordance.Lz4
