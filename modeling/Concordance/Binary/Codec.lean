import Concordance.SortedMap
import Concordance.Text.Utf8

/-!
# Writing values as bytes

A codec writes a value as bytes and reads one off the front of bytes. Numbers have a fixed width and
their least byte comes first; a text or a list follows its length, which takes eight bytes. What a codec
has written, it reads again, with the bytes behind it left over.

Bytes that nobody has written may announce a text of any length. Room for it is taken before its bytes are
looked at, so a length beyond all room is not a fault of the value but the end of the reading
(`DecodeFault.exhausted`). Of a list the items are taken one by one, whatever its length says.
-/

namespace Concordance

open Text

/-- Why no value is read off the front of bytes. -/
inductive DecodeFault where
  /-- No value is written like this. -/
  | invalid
  /-- A text of this many bytes is announced, and there is no room for so many. -/
  | exhausted (length : Nat)
deriving DecidableEq, Repr

/-- A reading came to an end because room for this many bytes was asked for. -/
structure Exhausted where
  length : Nat
deriving DecidableEq, Repr

/-- How values are written as bytes and read again. -/
structure Codec (α : Type) where
  write : α → List UInt8
  /-- A value at the front of bytes, and the bytes behind it. `room` is how many bytes can be had for a
  text that is announced but not there. -/
  read (room : Nat) : List UInt8 → Except DecodeFault (α × List UInt8)

/-- The first `count` bytes, and the bytes behind them, if there are that many. -/
def takeBytes? : (count : Nat) → List UInt8 → Option (List UInt8 × List UInt8)
  | 0, bytes => some ([], bytes)
  | _ + 1, [] => none
  | count + 1, b :: bytes => (takeBytes? count bytes).map fun (taken, rest) => (b :: taken, rest)

/-- The `width` least bytes of a number, the least one first. -/
def littleEndian : (width : Nat) → Nat → List UInt8
  | 0, _ => []
  | width + 1, n => UInt8.ofNat n :: littleEndian width (n / 256)

/-- The number whose bytes these are, the least one first. -/
def ofLittleEndian : List UInt8 → Nat
  | [] => 0
  | b :: bytes => b.toNat + 256 * ofLittleEndian bytes

def readNumber? (width : Nat) (bytes : List UInt8) : Option (Nat × List UInt8) :=
  (takeBytes? width bytes).map fun (taken, rest) => (ofLittleEndian taken, rest)

def orInvalid {α : Type} : Option α → Except DecodeFault α
  | some a => .ok a
  | none => .error .invalid

namespace Codec

variable {α β : Type}

/-- The most bytes that can be addressed. -/
def addressable : Nat := 0x7FFFFFFFFFFFFFFF

/-- The codec of another type whose values correspond to those of `codec`. -/
def map (codec : Codec α) (build : α → β) (take : β → α) : Codec β where
  write b := codec.write (take b)
  read room bytes := (codec.read room bytes).map fun (a, rest) => (build a, rest)

def pair (first : Codec α) (second : Codec β) : Codec (α × β) where
  write := fun (a, b) => first.write a ++ second.write b
  read room bytes := do
    let (a, rest) ← first.read room bytes
    let (b, rest) ← second.read room rest
    return ((a, b), rest)

def number (width : Nat) : Codec Nat where
  write n := littleEndian width n
  read _ bytes := orInvalid (readNumber? width bytes)

def word32 : Codec UInt32 :=
  (number 4).map UInt32.ofNat UInt32.toNat

def word64 : Codec UInt64 :=
  (number 8).map UInt64.ofNat UInt64.toNat

/-- A truth value: the byte 1 or 0, and no other byte. -/
def bool : Codec Bool where
  write b := [if b then 1 else 0]
  read
    | _, 0 :: rest => .ok (false, rest)
    | _, 1 :: rest => .ok (true, rest)
    | _, _ => .error .invalid

/-- A value that may be missing: the byte 0, or the byte 1 and the value. -/
def option (codec : Codec α) : Codec (Option α) where
  write
    | none => [0]
    | some a => 1 :: codec.write a
  read
    | _, 0 :: rest => .ok (none, rest)
    | room, 1 :: rest => (codec.read room rest).map fun (a, rest) => (some a, rest)
    | _, _ => .error .invalid

/-- So many bytes at the front of bytes, and those behind them. Where there are fewer, room is taken for all
of them nevertheless. -/
def readBytes (room length : Nat) (bytes : List UInt8) : Except DecodeFault (List UInt8 × List UInt8) :=
  match takeBytes? length bytes with
  | some taken => .ok taken
  | none => .error (if room < length then .exhausted length else .invalid)

/-- A text: the number of its bytes, and its bytes. -/
def text : Codec String where
  write s :=
    let bytes := encode s
    littleEndian 8 bytes.length ++ bytes
  read room bytes := do
    let (length, rest) ← (number 8).read room bytes
    let (taken, rest) ← readBytes room length rest
    return (← orInvalid (decode? taken), rest)

/-- So many values, one after the other. -/
def readMany (codec : Codec α) (room : Nat) :
    (count : Nat) → List UInt8 → Except DecodeFault (List α × List UInt8)
  | 0, bytes => .ok ([], bytes)
  | count + 1, bytes => do
    let (a, rest) ← codec.read room bytes
    let (as, rest) ← readMany codec room count rest
    return (a :: as, rest)

def list (codec : Codec α) : Codec (List α) where
  write items := littleEndian 8 items.length ++ items.flatMap codec.write
  read room bytes := do
    let (count, rest) ← (number 8).read room bytes
    readMany codec room count rest

/-- A map: the list of its entries. Of equal keys the last one counts, and any order is read. -/
def sortedMap (codec : Codec α) : Codec (SortedMap α) :=
  (list (pair text codec)).map SortedMap.ofList SortedMap.entries

end Codec

end Concordance
