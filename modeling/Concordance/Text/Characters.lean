/-!
# Facts about characters

What the library has to know about single characters, as one table of properties. The rest of the
library is written against this class and not against one edition of a standard, so a statement about
it holds for every table that has the laws it names; `Concordance.Unicode.Database` supplies the
table that the program runs with.
-/

namespace Concordance.Text

class CharacterTable where
  /-- The character is a letter or works like one. -/
  isAlphabetic : Char → Bool
  /-- The character is a digit or another number sign. -/
  isNumber : Char → Bool
  /-- The character is a decimal digit. -/
  isDecimalDigit : Char → Bool
  /-- The character combines with the one before it. -/
  isMark : Char → Bool
  /-- The character has upper or lower case. -/
  isCased : Char → Bool
  /-- The character is passed over when its neighbours decide about case. -/
  isCaseIgnorable : Char → Bool
  /-- The lower-case form of a character that stands alone. -/
  toLower : Char → List Char
  /-- The full compatibility decomposition of a character. -/
  decompose : Char → List Char
  /-- The canonical combining class; marks of a smaller class come first. -/
  combiningClass : Char → Nat

export CharacterTable (isAlphabetic isNumber isDecimalDigit isMark)

variable [CharacterTable]

/-- Characters that words are made of: letters, numbers and combining marks. -/
def isWordChar (c : Char) : Bool :=
  isAlphabetic c || isNumber c || isMark c

/-- Characters that stay inside a word but do not begin or end one. -/
def isJoiner (c : Char) : Bool :=
  c == '-' || c == '_'

/-- Characters of a run from which terms are taken. -/
def isRunChar (c : Char) : Bool :=
  isWordChar c || isJoiner c

end Concordance.Text
