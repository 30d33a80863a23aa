import Concordance.Text.Split

/-!
# UTF-8

A text as bytes and back. Reading goes from character to character; where the bytes do not spell one,
the longest start of a character, or else a single byte, is passed over as one flaw. `decode?` accepts
bytes without flaws only, and `decodeLossy` puts the replacement character in the place of each flaw.
`readLines` takes bytes line by line, up to the first line with a flaw.
-/

namespace Concordance.Text

def encodeChars (cs : List Char) : List UInt8 :=
  cs.flatMap String.utf8EncodeChar

def encode (text : String) : List UInt8 :=
  encodeChars text.toList

/-- What the first byte of a character tells: its share of the number, how many bytes follow, and the
bounds of the next one. -/
structure Lead where
  value : Nat
  more : Nat
  low : UInt8 := 0x80
  high : UInt8 := 0xBF

def lead? (b : UInt8) : Option Lead :=
  let n := b.toNat
  if n < 0x80 then some ⟨n, 0, 0x80, 0xBF⟩
  else if n < 0xC2 then none
  else if n < 0xE0 then some ⟨n - 0xC0, 1, 0x80, 0xBF⟩
  else if n < 0xF0 then
    some ⟨n - 0xE0, 2, if n = 0xE0 then 0xA0 else 0x80, if n = 0xED then 0x9F else 0xBF⟩
  else if n < 0xF5 then
    some ⟨n - 0xF0, 3, if n = 0xF0 then 0x90 else 0x80, if n = 0xF4 then 0x8F else 0xBF⟩
  else none

/-- Reads `more` further bytes of a character, the first of them between `low` and `high`. -/
def readTail (value : Nat) (low high : UInt8) : (more : Nat) → List UInt8 → Option Char × List UInt8
  | 0, rest => (some (Char.ofNat value), rest)
  | _ + 1, [] => (none, [])
  | more + 1, b :: rest =>
    if low ≤ b ∧ b ≤ high then readTail (64 * value + (b.toNat - 0x80)) 0x80 0xBF more rest
    else (none, b :: rest)

/-- Reads a character that begins with `b`; `none` is a flaw. -/
def readChar (b : UInt8) (rest : List UInt8) : Option Char × List UInt8 :=
  match lead? b with
  | none => (none, rest)
  | some lead => readTail lead.value lead.low lead.high lead.more rest

theorem length_readTail_le {value : Nat} {low high : UInt8} {more : Nat} {rest : List UInt8} :
    (readTail value low high more rest).2.length ≤ rest.length := by
  fun_induction readTail value low high more rest with
  | case1 => exact Nat.le_refl _
  | case2 => exact Nat.le_refl _
  | case3 _ _ _ _ _ _ _ ih => exact Nat.le_succ_of_le ih
  | case4 => exact Nat.le_refl _

theorem length_readChar_le (b : UInt8) (rest : List UInt8) :
    (readChar b rest).2.length ≤ rest.length := by
  unfold readChar
  split
  · exact Nat.le_refl _
  · exact length_readTail_le

def decodeChars : List UInt8 → List (Option Char)
  | [] => []
  | b :: rest => (readChar b rest).1 :: decodeChars (readChar b rest).2
termination_by bytes => bytes.length
decreasing_by exact Nat.lt_succ_of_le (length_readChar_le b rest)

def decode? (bytes : List UInt8) : Option String :=
  ((decodeChars bytes).mapM id).map String.ofList

/-- The text that bytes spell, with `U+FFFD` for every flaw. -/
def decodeLossy (bytes : List UInt8) : String :=
  String.ofList ((decodeChars bytes).map fun c => c.getD (Char.ofNat 0xFFFD))

/-! ### Lines -/

/-- The lines of a row of bytes. A line ends with a line feed or with a carriage return and a line feed;
the last one may lack its end, and then keeps a carriage return. -/
def lineBytes (bytes : List UInt8) : List (List UInt8) :=
  let pieces := splitBy (· == 0x0A) bytes
  pieces.dropLast.map (fun line => if line.getLast? = some 0x0D then line.dropLast else line) ++
    (pieces.getLast?.filter fun line => !line.isEmpty).toList

/-- The lines that bytes spell, up to the first one with a flaw. -/
def readLines (bytes : List UInt8) : List (List Char) :=
  (((lineBytes bytes).map decode?).takeWhile Option.isSome).filterMap fun line => line.map String.toList

end Concordance.Text
