import Concordance.Config
import Concordance.Ranking.Scalar

/-!
# The ranking formula

A clause counts more the rarer it is (`idf`) and the more often it occurs, with diminishing returns and
in proportion to the length of the document (`contribution`). The score of a document is the number of
clauses that it matches plus a fraction that grows with the sum of their contributions, so a document
that matches more clauses comes first.
-/

namespace Concordance.Ranking

variable {α : Type} [Scalar α]

abbrev number (n : Nat) : α := Scalar.ofNat n

/-- How much a clause counts that `hits` of `documents` documents match. -/
def idf (documents hits : Nat) : α :=
  Scalar.log
    (((number documents : α) - number hits + Scalar.half) / (number hits + Scalar.half) + number 1)

def lengthRatio (length : Nat) (mean : α) : α :=
  if Scalar.isPositive mean then number length / mean else number 1

/-- What is added to the frequency below the line. -/
def norm (weights : Weights α) (length : Nat) (mean : α) : α :=
  weights.saturation * (number 1 - weights.lengthNorm + weights.lengthNorm * lengthRatio length mean)

def contribution (weights : Weights α) (idf frequency : α) (length : Nat) (mean : α) : α :=
  idf * (frequency * (weights.saturation + number 1)) / (frequency + norm weights length mean)

/-- The frequency of a term with its occurrences in the title weighted; never below zero. -/
def weightedFrequency (weights : Weights α) (frequency titleFrequency : Nat) : α :=
  Scalar.atLeastZero (number frequency + (weights.titleWeight - number 1) * number titleFrequency)

def score (matched : Nat) (sum : α) : α :=
  number matched + sum / (number 1 + sum)

end Concordance.Ranking
