import Concordance.Index.Basic

/-!
# Putting an index together posting by posting

`Index.build` works the occurrences of a whole document into the terms at once. Here every posting is
put behind those of its term one at a time, and it must be of a later document than the last of them: a
document that is read twice, or too late, stops the assembly.
-/

namespace Concordance.Index

/-- The postings of a term with one more, if it is of a later document than the last of them. -/
def push? (postings : List Posting) (p : Posting) : Option (List Posting) :=
  if postings.getLast?.all fun last => last.document < p.document then some (postings ++ [p]) else none

/-- Records the occurrences of a term in the document `n`. -/
def addTerm? (n : DocId) (terms : SortedMap (List Posting)) (entry : String × UInt32 × List UInt32) :
    Option (SortedMap (List Posting)) :=
  let (t, titleCount, positions) := entry
  match terms.find? t with
  | some postings => (push? postings (posting n titleCount positions)).map (terms.insert t)
  | none => some (terms.insert t [posting n titleCount positions])

variable {α : Type} [Text.CharacterTable]

/-- Adds a document to what has been read, term by term. -/
def Draft.add? (config : TokenizerConfig) (draft : Draft) (numbered : DocId × Document) :
    Option Draft :=
  let (n, document) := numbered
  let occurrences := occurrencesOf config document
  (occurrences.entries.foldlM (addTerm? n) draft.terms).map fun terms =>
    ⟨terms, draft.lengths ++ [lengthOfOccurrences occurrences]⟩

/-- The index of the documents of a store, unless a posting is out of order. -/
def assemble? [Scalar α] (store : Store) (config : TokenizerConfig) : Option (Index α) :=
  (store.numbered.foldlM (Draft.add? config) ⟨.empty, []⟩).map Draft.index

end Concordance.Index
