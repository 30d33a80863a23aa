import Concordance.Text.Characters

/-!
# Compatibility decomposition

The normal form in which every character is fully decomposed and the combining marks that follow one
another stand in the order of their classes. Marks of one class keep their order, and a character of
class zero is never passed.
-/

namespace Concordance.Text

variable [CharacterTable]

/-- Adds `c` at the end of a text that is held backwards: a mark moves before the marks of greater
class that it follows. -/
def placeMark (c : Char) : List Char → List Char
  | [] => [c]
  | d :: before =>
    if CharacterTable.combiningClass c ≠ 0 ∧
        CharacterTable.combiningClass c < CharacterTable.combiningClass d then
      d :: placeMark c before
    else c :: d :: before

/-- The text with every run of combining marks sorted by class. -/
def orderMarks (cs : List Char) : List Char :=
  (cs.foldl (fun before c => placeMark c before) []).reverse

def decomposed (cs : List Char) : List Char :=
  orderMarks (cs.flatMap CharacterTable.decompose)

def withoutMarks (cs : List Char) : List Char :=
  (decomposed cs).filter fun c => !isMark c

end Concordance.Text
