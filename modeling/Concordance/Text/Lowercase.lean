import Concordance.Text.Characters

/-!
# Lower case

Each character is mapped by the table, but capital sigma depends on its neighbours: at the end of a
word it becomes `ς` and elsewhere `σ`. The neighbours are those of the text that is mapped, so the
lower case of a text is not put together from the lower case of its parts.
-/

namespace Concordance.Text

variable [CharacterTable]

/-- The first character of `cs` that is not passed over has case. -/
def meetsCased (cs : List Char) : Bool :=
  match cs.dropWhile CharacterTable.isCaseIgnorable with
  | [] => false
  | c :: _ => CharacterTable.isCased c

/-- Capital sigma in lower case, after `before` (read backwards) and before `after`. -/
def lowerSigma (before after : List Char) : Char :=
  if meetsCased before && !meetsCased after then 'ς' else 'σ'

/-- The lower case of a text that follows `before`, which is read backwards. -/
def lowerAfter (before : List Char) : List Char → List Char
  | [] => []
  | c :: rest =>
    (if c = 'Σ' then [lowerSigma before rest] else CharacterTable.toLower c) ++
      lowerAfter (c :: before) rest

def lower (cs : List Char) : List Char :=
  lowerAfter [] cs

/-- The text with its letters of ASCII in lower case; other characters stay. -/
def asciiLower (cs : List Char) : List Char :=
  cs.map Char.toLower

end Concordance.Text
