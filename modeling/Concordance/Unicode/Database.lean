import Concordance.Text.Characters
import Concordance.Unicode.Alphabetic
import Concordance.Unicode.CaseIgnorable
import Concordance.Unicode.Cased
import Concordance.Unicode.CombiningClass
import Concordance.Unicode.DecimalNumber
import Concordance.Unicode.Decomposition
import Concordance.Unicode.Lowercase
import Concordance.Unicode.Mark
import Concordance.Unicode.Number

/-!
# The character table of Unicode

Puts the tables of this directory together. Letters, numbers, case and combining classes are those of
edition 17 of the standard, decimal digits those of edition 16, and marks and decompositions those of
edition 18. A mark that edition 17 does not have keeps the class zero, which makes no difference where
marks are dropped. The syllables of Hangul decompose by rule: a syllable is numbered by its leading
consonant, vowel and trailing consonant.
-/

namespace Concordance.Unicode

/-- The jamo of the Hangul syllable with this number. -/
def jamo (syllable : Nat) : List Char :=
  let leading := Char.ofNat (0x1100 + syllable / 588)
  let vowel := Char.ofNat (0x1161 + syllable % 588 / 28)
  if syllable % 28 = 0 then [leading, vowel]
  else [leading, vowel, Char.ofNat (0x11A7 + syllable % 28)]

def decompose (c : Char) : List Char :=
  if 0xAC00 ≤ c.toNat ∧ c.toNat ≤ 0xD7A3 then jamo (c.toNat - 0xAC00)
  else decomposition.image c

def combiningClass (c : Char) : Nat :=
  combiningClasses.number c.toNat

instance : Text.CharacterTable where
  isAlphabetic := alphabetic.holds
  isNumber := number.holds
  isDecimalDigit := decimalNumber.holds
  isMark := mark.holds
  isCased := cased.holds
  isCaseIgnorable := caseIgnorable.holds
  toLower := lowercase.image
  decompose := decompose
  combiningClass := combiningClass

end Concordance.Unicode
