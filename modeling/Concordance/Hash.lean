import Concordance.Decimal.Places

/-!
# A stable hash

The 64-bit hash FNV-1a. It depends on the bytes alone, so files that are named by it are found again.
-/

namespace Concordance

def hashStart : UInt64 := 0xcbf29ce484222325

def hashByte (hash : UInt64) (byte : UInt8) : UInt64 :=
  (hash ^^^ byte.toUInt64) * 0x100000001b3

def stableHash (bytes : List UInt8) : UInt64 :=
  bytes.foldl hashByte hashStart

/-- `n` in base sixteen with at least `width` digits. -/
def hexText (width n : Nat) : String :=
  String.ofList (Decimal.padStart '0' width (Nat.toDigits 16 n))

end Concordance
