import Concordance.Text.Blank
import Concordance.Text.Characters
import Concordance.Text.Split

/-!
# The lines of an article

What the beginning of a line says about it: a heading, a mark of a code block, a rule or the separator
of a table, or the markers of quotations and lists, which are taken off.
-/

namespace Concordance.Article

open Text

/-- The line, without white space around it, begins or ends a code block. -/
def isFence (trimmed : List Char) : Bool :=
  (stripStart? (List.replicate 3 (Char.ofNat 0x60)) trimmed).isSome ||
    (stripStart? ['~', '~', '~'] trimmed).isSome

/-- White space, hash signs and white space: what may stand at the end of a heading. -/
def isClosing (cs : List Char) : Bool :=
  ((cs.dropWhile isBlank).dropWhile (· == '#')).all isBlank

def beforeClosing : List Char → List Char
  | [] => []
  | c :: rest => if isClosing (c :: rest) then [] else c :: beforeClosing rest

/-- The text of a heading, if the line is one: at most three characters of white space and one to six
hash signs, then white space before any text. More than six hash signs are a heading when nothing
follows them. -/
def heading? (line : List Char) : Option (List Char) :=
  let indent := line.takeWhile isBlank
  let hashes := (line.dropWhile isBlank).takeWhile (· == '#')
  let rest := (line.dropWhile isBlank).dropWhile (· == '#')
  if 3 < indent.length || hashes.isEmpty then none
  else if 6 < hashes.length then
    if rest.all isBlank then some [] else none
  else
    match rest with
    | [] => some []
    | c :: _ => if isBlank c then some (beforeClosing (rest.dropWhile isBlank)) else none

def isRuleChar (c : Char) : Bool :=
  c == '-' || c == '*' || c == '_' || c == '|' || c == ':' || c == ' ' || c == '\t'

/-- The line, without white space around it, is a rule or separates the head of a table. -/
def isRule (trimmed : List Char) : Bool :=
  trimmed.all isRuleChar &&
    3 ≤ trimmed.countP fun c => c == '-' || c == '*' || c == '_'

variable [CharacterTable]

/-- What follows white space, of which there has to be some. -/
def afterBlank? : List Char → Option (List Char)
  | c :: rest => if isBlank c then some (rest.dropWhile isBlank) else none
  | [] => none

/-- What follows the number of a list item. -/
def afterNumber? (cs : List Char) : Option (List Char) :=
  if (cs.takeWhile isDecimalDigit).isEmpty then none
  else
    match cs.dropWhile isDecimalDigit with
    | c :: rest => if c = '.' ∨ c = ')' then afterBlank? rest else none
    | [] => none

/-- What follows a marker of a quotation or a list item: `>` and perhaps one character of white space;
`-`, `*` or `+`, or a number with a full stop or a parenthesis, and white space. -/
def afterMarker? (line : List Char) : Option (List Char) :=
  match line.dropWhile isBlank with
  | '>' :: rest =>
    match rest with
    | c :: more => some (if isBlank c then more else rest)
    | [] => some []
  | c :: rest =>
    if c = '-' ∨ c = '*' ∨ c = '+' then afterBlank? rest else afterNumber? (c :: rest)
  | [] => none

omit [CharacterTable] in
theorem length_of_afterBlank? {cs rest : List Char} (h : afterBlank? cs = some rest) :
    rest.length < cs.length := by
  unfold afterBlank? at h
  split at h
  · split at h
    · cases h
      exact Nat.lt_succ_of_le (length_dropWhile_le _ _)
    · simp at h
  · simp at h

/-- A number and its point take up some of the line. -/
theorem length_of_afterNumber? {cs rest : List Char} (h : afterNumber? cs = some rest) :
    rest.length < cs.length := by
  unfold afterNumber? at h
  split at h
  · simp at h
  · split at h
    · next c more hd =>
      split at h
      · have := length_of_afterBlank? h
        have := length_dropWhile_le isDecimalDigit cs
        simp only [hd, List.length_cons] at this
        omega
      · simp at h
    · simp at h

/-- Every marker takes up some of the line, so dropping markers comes to an end. -/
theorem length_of_afterMarker? {line rest : List Char} (h : afterMarker? line = some rest) :
    rest.length < line.length := by
  have hle := length_dropWhile_le isBlank line
  unfold afterMarker? at h
  split at h
  · next more hd =>
    simp only [hd, List.length_cons] at hle
    split at h
    · cases h
      split
      · simp only [List.length_cons] at hle
        omega
      · omega
    · cases h
      simp only [List.length_nil] at hle ⊢
      omega
  · next c more _ hd =>
    simp only [hd, List.length_cons] at hle
    split at h
    · have := length_of_afterBlank? h
      omega
    · have := length_of_afterNumber? h
      simp only [List.length_cons] at this
      omega
  · simp at h

def dropMarkers (line : List Char) : List Char :=
  match h : afterMarker? line with
  | some rest =>
    have := length_of_afterMarker? h
    dropMarkers rest
  | none => line
termination_by line.length

end Concordance.Article
