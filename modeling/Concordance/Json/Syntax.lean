import Concordance.Text.Blank

/-!
# The syntax of JSON

Reading happens in two steps. This module finds the tree that a text spells, with every escape and
every digit as it is written; `Concordance.Json.Reader` gives the tree a value. A text can be well
formed and have no value, because of a lone surrogate or a number that is too large, and whoever does
not need the value need not ask for it.

The reader is given as many steps as the text has characters, which it cannot use up: each step takes
a character off the text.
-/

namespace Concordance.Json

/-- A number as it is written: digits before the point, behind it and in the exponent. -/
structure NumberText where
  negative : Bool
  whole : List Char
  /-- `[]` if there is no point. -/
  fraction : List Char
  /-- The sign of the exponent and its digits, if there is one. -/
  power : Option (Bool × List Char)

/-- A character of a text, or the code unit of an escape. -/
inductive Unit16 where
  | char (c : Char)
  | unit (n : Nat)

/-- The tree that a text spells. -/
inductive Tree where
  | null
  | bool (b : Bool)
  | number (n : NumberText)
  | text (units : List Unit16)
  | array (items : List Tree)
  | object (pairs : List (List Unit16 × Tree))

def isSpace (c : Char) : Bool :=
  c == ' ' || c == '\n' || c == '\t' || c == '\r'

def skipSpace (cs : List Char) : List Char :=
  cs.dropWhile isSpace

def isDigit (c : Char) : Bool :=
  '0' ≤ c && c ≤ '9'

def hexValue? (c : Char) : Option Nat :=
  if '0' ≤ c ∧ c ≤ '9' then some (c.toNat - '0'.toNat)
  else if 'a' ≤ c ∧ c ≤ 'f' then some (c.toNat - 'a'.toNat + 10)
  else if 'A' ≤ c ∧ c ≤ 'F' then some (c.toNat - 'A'.toNat + 10)
  else none

def hexUnit? : List Char → Option (Nat × List Char)
  | a :: b :: c :: d :: rest => do
    let a ← hexValue? a
    let b ← hexValue? b
    let c ← hexValue? c
    let d ← hexValue? d
    return (4096 * a + 256 * b + 16 * c + d, rest)
  | _ => none

/-- What stands for itself or for a control after a backslash. -/
def escaped? (c : Char) : Option Char :=
  if c = '"' ∨ c = '\\' ∨ c = '/' then some c
  else if c = 'b' then some (Char.ofNat 8)
  else if c = 'f' then some (Char.ofNat 12)
  else if c = 'n' then some '\n'
  else if c = 'r' then some '\r'
  else if c = 't' then some '\t'
  else none

/-- The rest of a text behind its opening quotation mark, and what follows it. -/
def readText? : (fuel : Nat) → List Char → Option (List Unit16 × List Char)
  | fuel + 1, c :: rest =>
    if c = '"' then some ([], rest)
    else if c = '\\' then
      match rest with
      | 'u' :: rest => do
        let (n, rest) ← hexUnit? rest
        let (units, rest) ← readText? fuel rest
        return (.unit n :: units, rest)
      | e :: rest => do
        let c ← escaped? e
        let (units, rest) ← readText? fuel rest
        return (.char c :: units, rest)
      | [] => none
    else if c.toNat < 0x20 then none
    else do
      let (units, rest) ← readText? fuel rest
      return (.char c :: units, rest)
  | _, _ => none

/-- The digits behind a point, at least one, if there is a point. -/
def readFraction? : List Char → Option (List Char × List Char)
  | '.' :: rest =>
    let digits := rest.takeWhile isDigit
    if digits.isEmpty then none else some (digits, rest.dropWhile isDigit)
  | rest => some ([], rest)

/-- The sign and the digits of an exponent, at least one, if there is one. -/
def readPower? : List Char → Option (Option (Bool × List Char) × List Char)
  | [] => some (none, [])
  | c :: rest =>
    if c = 'e' ∨ c = 'E' then
      let (negative, rest) :=
        match rest with
        | '-' :: rest => (true, rest)
        | '+' :: rest => (false, rest)
        | rest => (false, rest)
      let digits := rest.takeWhile isDigit
      if digits.isEmpty then none else some (some (negative, digits), rest.dropWhile isDigit)
    else some (none, c :: rest)

/-- A number without its sign. More than one digit before the point may not begin with zero. -/
def readNumber? (negative : Bool) (cs : List Char) : Option (NumberText × List Char) := do
  let whole := cs.takeWhile isDigit
  if whole.isEmpty || (whole.head? == some '0' && 1 < whole.length) then none
  else
    let (fraction, rest) ← readFraction? (cs.dropWhile isDigit)
    let (power, rest) ← readPower? rest
    return (⟨negative, whole, fraction, power⟩, rest)

/-- `rest` if the text begins with `word`. -/
def readWord? : (word cs : List Char) → Option (List Char)
  | [], cs => some cs
  | w :: word, c :: cs => if w = c then readWord? word cs else none
  | _ :: _, [] => none

mutual

def readTree? : (fuel : Nat) → List Char → Option (Tree × List Char)
  | 0, _ => none
  | fuel + 1, cs =>
    match skipSpace cs with
    | [] => none
    | c :: rest =>
      if c = 'n' then (readWord? "ull".toList rest).map (Tree.null, ·)
      else if c = 't' then (readWord? "rue".toList rest).map (Tree.bool true, ·)
      else if c = 'f' then (readWord? "alse".toList rest).map (Tree.bool false, ·)
      else if c = '"' then
        (readText? rest.length rest).map fun (units, rest) => (.text units, rest)
      else if c = '[' then
        match skipSpace rest with
        | ']' :: rest => some (.array [], rest)
        | rest => (readItems? fuel rest).map fun (items, rest) => (.array items, rest)
      else if c = '\x7b' then
        match skipSpace rest with
        | '\x7d' :: rest => some (.object [], rest)
        | rest => (readPairs? fuel rest).map fun (pairs, rest) => (.object pairs, rest)
      else if c = '-' then (readNumber? true rest).map fun (n, rest) => (.number n, rest)
      else (readNumber? false (c :: rest)).map fun (n, rest) => (.number n, rest)

/-- Items up to the closing bracket, at least one. -/
def readItems? : (fuel : Nat) → List Char → Option (List Tree × List Char)
  | 0, _ => none
  | fuel + 1, cs => do
    let (item, rest) ← readTree? fuel cs
    match skipSpace rest with
    | ',' :: rest =>
      let (items, rest) ← readItems? fuel rest
      return (item :: items, rest)
    | ']' :: rest => return ([item], rest)
    | _ => none

/-- Pairs up to the closing brace, at least one. -/
def readPairs? : (fuel : Nat) → List Char → Option (List (List Unit16 × Tree) × List Char)
  | 0, _ => none
  | fuel + 1, cs =>
    match skipSpace cs with
    | '"' :: rest => do
      let (key, rest) ← readText? rest.length rest
      match skipSpace rest with
      | ':' :: rest =>
        let (value, rest) ← readTree? fuel rest
        match skipSpace rest with
        | ',' :: rest =>
          let (pairs, rest) ← readPairs? fuel rest
          return ((key, value) :: pairs, rest)
        | '\x7d' :: rest => return ([(key, value)], rest)
        | _ => none
      | _ => none
    | _ => none

end

def Tree.ofText? (cs : List Char) : Option Tree :=
  match readTree? (cs.length + 1) cs with
  | some (tree, rest) => if (skipSpace rest).isEmpty then some tree else none
  | none => none

end Concordance.Json
