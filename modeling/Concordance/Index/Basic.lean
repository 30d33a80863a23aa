import Concordance.Ranking.Scalar
import Concordance.SortedMap
import Concordance.Store
import Concordance.Tokenizer

/-!
# Indexes

An index records for every term in which documents it occurs and where. The positions of a document
count the terms of the title first and then, after a gap, those of the body; so a phrase never runs from
the title into the body.
-/

namespace Concordance

open Text

/-- The occurrences of a term in a document. -/
structure Posting where
  document : DocId
  /-- How often the term occurs. -/
  frequency : UInt32
  /-- How often it occurs in the title. -/
  titleFrequency : UInt32
  positions : List UInt32
deriving DecidableEq, Repr

/-- What is known of the terms of a set of documents. -/
structure Index (α : Type) where
  terms : SortedMap (List Posting)
  /-- The number of terms of each document. -/
  lengths : List UInt32
  documentCount : UInt32
  /-- The mean number of terms of a document, over the numbers that scores are computed with. -/
  meanLength : α
  totalLength : UInt64

namespace Index

variable {α : Type}

def postings (index : Index α) (term : String) : List Posting :=
  (index.terms.find? term).getD []

/-- The number of terms of a document, zero for a document that is not known. -/
def lengthOf (index : Index α) (n : DocId) : UInt32 :=
  index.lengths[n.toNat]?.getD 0

def map {β : Type} (f : α → β) (index : Index α) : Index β :=
  { index with meanLength := f index.meanLength }

def termCount (index : Index α) : Nat :=
  index.terms.size

/-- How many positions lie between the last term of the title and the first one of the body. -/
def titleGap : UInt32 := 16

/-- The occurrences of the terms of one document: how many lie in the title, and all positions. -/
abbrev Occurrences := SortedMap (UInt32 × List UInt32)

def addOccurrence (inTitle : Bool) (occurrences : Occurrences) (term : String) (position : UInt32) :
    Occurrences :=
  occurrences.alter term fun old =>
    let (count, positions) := old.getD (0, [])
    (if inTitle then count + 1 else count, positions ++ [position])

/-- The position of the first term of the body, by the number of terms of the title. -/
def bodyStart (titleLength : Nat) : UInt32 :=
  if titleLength = 0 then 0 else UInt32.ofNat titleLength + titleGap

def sum32 (numbers : List UInt32) : UInt32 :=
  numbers.foldl (· + ·) 0

variable [CharacterTable]

def occurrencesOf (config : TokenizerConfig) (document : Document) : Occurrences :=
  let title := config.tokenize document.title
  let start := bodyStart title.length
  let inTitle := title.foldl (fun map (term, p) => addOccurrence true map term p) .empty
  (config.tokenize document.body).foldl
    (fun map (term, p) => addOccurrence false map term (start + p)) inTitle

def posting (n : DocId) (titleCount : UInt32) (positions : List UInt32) : Posting :=
  ⟨n, UInt32.ofNat positions.length, titleCount, positions⟩

def lengthOfOccurrences (occurrences : Occurrences) : UInt32 :=
  sum32 (occurrences.entries.map fun (_, _, positions) => UInt32.ofNat positions.length)

/-- The postings and lengths of the documents that have been read. -/
structure Draft where
  terms : SortedMap (List Posting)
  lengths : List UInt32

def Draft.add (config : TokenizerConfig) (draft : Draft) (numbered : DocId × Document) : Draft :=
  let (n, document) := numbered
  let occurrences := occurrencesOf config document
  ⟨draft.terms.absorb occurrences fun old (titleCount, positions) =>
      old.getD [] ++ [posting n titleCount positions],
    draft.lengths ++ [lengthOfOccurrences occurrences]⟩

/-- The mean of `total` over `count` documents, zero over none. -/
def mean [Scalar α] (total : UInt64) (count : UInt32) : α :=
  if count = 0 then Scalar.ofNat 0 else Scalar.ofNat total.toNat / Scalar.ofNat count.toNat

def Draft.index [Scalar α] (draft : Draft) : Index α :=
  let total := draft.lengths.foldl (fun total length => total + length.toUInt64) 0
  let count := UInt32.ofNat draft.lengths.length
  ⟨draft.terms, draft.lengths, count, mean total count, total⟩

def build [Scalar α] (store : Store) (config : TokenizerConfig) : Index α :=
  (store.numbered.foldl (Draft.add config) ⟨.empty, []⟩).index

end Index

end Concordance
