import Concordance.Config
import Concordance.Text.Blank
import Concordance.Text.Decomposition
import Concordance.Text.Lowercase
import Concordance.Text.Split

/-!
# The tokenizer

    text ──runs──▶ maximal runs of word characters and joiners ──terms──▶ terms with their places

A run loses the joiners at its ends, is normalized, and is cut again where normalization brought in a
separator (`½` becomes `1⁄2`, two terms with one place). Documents and queries go through the same
tokenizer, which is why a term that was indexed can be asked for.
-/

namespace Concordance

open Text

variable [CharacterTable]

/-- A place in a text, counted in bytes of UTF-8 and in characters. -/
structure Place where
  byte : Nat
  char : Nat
deriving DecidableEq, Repr

def Place.after (place : Place) (cs : List Char) : Place :=
  ⟨place.byte + (cs.map Char.utf8Size).foldr (· + ·) 0, place.char + cs.length⟩

def Place.start : Place := ⟨0, 0⟩

/-- A stretch of a text: its characters and where they start. -/
structure Run where
  start : Place
  chars : List Char

def Run.stop (run : Run) : Place :=
  run.start.after run.chars

/-- The maximal runs of word characters and joiners of a text that begins at `place`. -/
def runsFrom (place : Place) : List Char → List Run
  | [] => []
  | c :: rest =>
    if isRunChar c then
      let chars := c :: rest.takeWhile isRunChar
      ⟨place, chars⟩ :: runsFrom (place.after chars) (rest.dropWhile isRunChar)
    else runsFrom (place.after [c]) rest
termination_by cs => cs.length
decreasing_by
  · exact Nat.lt_succ_of_le (length_dropWhile_le isRunChar rest)
  · exact Nat.lt_succ_self _

def Run.trimmed (run : Run) : Run :=
  ⟨run.start.after (run.chars.takeWhile isJoiner), trimBy isJoiner run.chars⟩

/-- A term and the stretch of text that it comes from. -/
structure Span where
  term : String
  /-- How many terms of the text come before. -/
  position : UInt32
  start : Place
  stop : Place
deriving DecidableEq, Repr

namespace TokenizerConfig

/-- The normal form of a word: folded if the configuration says so, and in lower case. -/
def normalize (config : TokenizerConfig) (word : List Char) : List Char :=
  if config.foldsDiacritics then lower (withoutMarks word) else lower word

/-- `term` is long enough to be kept. -/
def keeps (config : TokenizerConfig) (term : List Char) : Bool :=
  !term.isEmpty && config.minTermLength.toNat ≤ term.length

/-- The terms of a word: its normal form cut at separators, each piece without joiners at its ends. -/
def termsOfWord (config : TokenizerConfig) (word : List Char) : List (List Char) :=
  ((splitBy (fun c => !isRunChar c) (config.normalize word)).map (trimBy isJoiner)).filter config.keeps

def termsOfRun (config : TokenizerConfig) (run : Run) : List (List Char × Run) :=
  let run := run.trimmed
  if run.chars.isEmpty then [] else (config.termsOfWord run.chars).map fun term => (term, run)

def spansOf (config : TokenizerConfig) (text : List Char) : List Span :=
  ((runsFrom .start text).flatMap config.termsOfRun).zipIdx.map fun ((term, run), position) =>
    ⟨String.ofList term, UInt32.ofNat position, run.start, run.stop⟩

def spans (config : TokenizerConfig) (text : String) : List Span :=
  config.spansOf text.toList

def tokenize (config : TokenizerConfig) (text : String) : List (String × UInt32) :=
  (config.spans text).map fun span => (span.term, span.position)

def terms (config : TokenizerConfig) (text : String) : List String :=
  (config.spans text).map Span.term

end TokenizerConfig

/-! ### Stop words -/

def stopWords : List String :=
  ["a", "about", "an", "and", "are", "as", "at", "be", "but", "by", "can", "do", "does",
    "for", "from", "has", "have", "how", "i", "if", "in", "into", "is", "it", "its", "me",
    "my", "no", "not", "of", "on", "or", "so", "such", "than", "that", "the", "their",
    "then", "there", "these", "this", "those", "to", "was", "we", "what", "when", "where",
    "which", "while", "who", "why", "will", "with", "you", "your"]

def isStopWord (term : String) : Bool :=
  stopWords.contains term

end Concordance
