/-!
# Splitting text

Cutting text at every separating character, at its first or its last one, into lines, and replacing
one text by another. A text with `n` separators has `n + 1` pieces, some of them perhaps empty
(`length_splitBy`), and joining the pieces gives the text back.
-/

namespace Concordance.Text

/-- The pieces of a list between the items that satisfy `p`; `[]` has one empty piece. -/
def splitBy {α : Type} (p : α → Bool) : List α → List (List α)
  | [] => [[]]
  | c :: rest =>
    if p c then [] :: splitBy p rest
    else
      match splitBy p rest with
      | [] => [[c]]
      | piece :: pieces => (c :: piece) :: pieces

/-- One piece more than there are separators. -/
theorem length_splitBy {α : Type} (p : α → Bool) (cs : List α) :
    (splitBy p cs).length = cs.countP p + 1 := by
  induction cs with
  | nil => rfl
  | cons c rest ih =>
    by_cases h : p c
    · simp [splitBy, h, ih]
    · cases hs : splitBy p rest with
      | nil => simp [hs] at ih
      | cons piece pieces => simp [splitBy, h, hs] at ih ⊢; exact ih

def splitAt (separator : Char) (cs : List Char) : List (List Char) :=
  splitBy (· == separator) cs

def splitOnce? (separator : Char) : List Char → Option (List Char × List Char)
  | [] => none
  | c :: rest =>
    if c = separator then some ([], rest)
    else (splitOnce? separator rest).map fun (before, after) => (c :: before, after)

def splitLast? (separator : Char) (cs : List Char) : Option (List Char × List Char) :=
  (splitOnce? separator cs.reverse).map fun (after, before) => (before.reverse, after.reverse)

/-- `cs` without `start`, if it begins with it. -/
def stripStart? : (start cs : List Char) → Option (List Char)
  | [], cs => some cs
  | _ :: _, [] => none
  | s :: start, c :: cs => if s = c then stripStart? start cs else none

/-- What is left is shorter by what was taken off. -/
theorem length_of_stripStart? {start cs rest : List Char} (h : stripStart? start cs = some rest) :
    rest.length + start.length = cs.length := by
  induction start generalizing cs with
  | nil => cases h; rfl
  | cons s start ih =>
    cases cs with
    | nil => simp [stripStart?] at h
    | cons c cs =>
      rw [stripStart?] at h
      split at h
      · have := ih h
        simp only [List.length_cons]
        omega
      · simp at h

/-- `cs` with `old`, which begins with `first`, replaced by `new`, from left to right without
overlaps. -/
def replaceAll (first : Char) (old new : List Char) : List Char → List Char
  | [] => []
  | c :: rest =>
    match _h : stripStart? (first :: old) (c :: rest) with
    | some after => new ++ replaceAll first old new after
    | none => c :: replaceAll first old new rest
termination_by cs => cs.length
decreasing_by
  · have := length_of_stripStart? (by assumption)
    simp only [List.length_cons] at this ⊢
    omega
  · exact Nat.lt_succ_self _

/-- Every carriage return that stands before a line feed is dropped. -/
def joinCarriageReturns : List Char → List Char
  | [] => []
  | '\r' :: '\n' :: rest => '\n' :: joinCarriageReturns rest
  | c :: rest => c :: joinCarriageReturns rest

def dropCarriageReturn (line : List Char) : List Char :=
  match line.getLast? with
  | some '\r' => line.dropLast
  | _ => line

/-- Lines end with a line feed or with a carriage return and a line feed; `current` is the line being
read, backwards. The last line may lack its end, and then keeps a carriage return. -/
def linesFrom (current : List Char) : List Char → List (List Char)
  | [] => if current.isEmpty then [] else [current.reverse]
  | '\n' :: rest => dropCarriageReturn current.reverse :: linesFrom [] rest
  | c :: rest => linesFrom (c :: current) rest

def lines (cs : List Char) : List (List Char) :=
  linesFrom [] cs

def joinWith (separator : List Char) : List (List Char) → List Char
  | [] => []
  | [piece] => piece
  | piece :: pieces => piece ++ separator ++ joinWith separator pieces

end Concordance.Text
