/-!
# Settings

The settings of an engine. Those of the tokenizer decide what an index holds; the weights and the
limits only matter when a query is answered, so an index serves every configuration whose tokenizer
settings are the same (`Config.sharesIndex`).
-/

namespace Concordance

/-- How text becomes terms. -/
structure TokenizerConfig where
  /-- Terms with fewer characters are dropped. -/
  minTermLength : UInt64 := 1
  /-- Accents and compatibility forms are folded away. -/
  foldsDiacritics : Bool := false
deriving DecidableEq, Repr, Inhabited

/-- The parameters of the ranking formula, over the numbers that it is computed with. -/
structure Weights (α : Type) where
  /-- How soon more occurrences stop counting. -/
  saturation : α
  /-- How much the length of a document counts: 0 not at all, 1 fully. -/
  lengthNorm : α
  /-- How often an occurrence in the title counts. -/
  titleWeight : α
deriving DecidableEq, Repr

def Weights.standard : Weights Float :=
  ⟨1.2, 0.75, 2.0⟩

structure Config (α : Type) where
  tokenizer : TokenizerConfig := {}
  weights : Weights α
  /-- The greatest number of characters of a snippet. -/
  snippetLength : UInt64 := 160
  /-- The number of results when none is asked for. -/
  defaultLimit : UInt64 := 10
  /-- The greatest number of results that may be asked for. -/
  maxLimit : UInt64 := 100
deriving DecidableEq, Repr

def Config.standard : Config Float :=
  { weights := .standard }

def Weights.map {α β : Type} (f : α → β) (weights : Weights α) : Weights β :=
  ⟨f weights.saturation, f weights.lengthNorm, f weights.titleWeight⟩

def Config.map {α β : Type} (f : α → β) (config : Config α) : Config β :=
  { config with weights := config.weights.map f }

/-- An index built under `b` answers queries under `a`. -/
def Config.sharesIndex {α β : Type} (a : Config α) (b : Config β) : Bool :=
  a.tokenizer = b.tokenizer

end Concordance
