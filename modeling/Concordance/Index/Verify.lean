import Concordance.Index.Basic

/-!
# Checking an index

An index that was read from a file is used only if it is well formed: a length for every document; for
every term at least one posting, in strictly ascending order of known documents; and in every posting
strictly ascending positions, at least one, whose number is the frequency, of which at most all lie in
the title.
-/

namespace Concordance

/-- What is wrong with an index. -/
inductive IndexFault where
  | noPostings (term : String)
  | unorderedPostings (term : String) (document : DocId)
  | unknownDocument (term : String) (document : DocId) (count : UInt32)
  | badPositions (term : String) (document : DocId)
  | lengthMismatch (expected actual : Nat)
deriving DecidableEq, Repr

def IndexFault.message : IndexFault → String
  | .noPostings term => "Term '" ++ term ++ "' has no postings"
  | .unorderedPostings term n =>
    "Postings for '" ++ term ++ "' are not strictly ascending at doc " ++ toString n.toNat
  | .unknownDocument term n count =>
    "Posting for '" ++ term ++ "' refers to unknown doc " ++ toString n.toNat ++ " (doc count " ++
      toString count.toNat ++ ")"
  | .badPositions term n =>
    "Positions for '" ++ term ++ "' in doc " ++ toString n.toNat ++ " are inconsistent"
  | .lengthMismatch expected actual =>
    "Document length table has " ++ toString actual ++ " entries, expected " ++ toString expected

namespace Index

def isAscending : List UInt32 → Bool
  | a :: b :: rest => a < b && isAscending (b :: rest)
  | _ => true

/-- The numbers of a posting fit its positions. -/
def isConsistent (p : Posting) : Bool :=
  isAscending p.positions && !p.positions.isEmpty &&
    p.frequency.toNat = p.positions.length && p.titleFrequency ≤ p.frequency

/-- The first fault in postings that follow one of the document `previous`. -/
def faultIn? (count : UInt32) (term : String) (previous : Option DocId) : List Posting → Option IndexFault
  | [] => none
  | p :: rest =>
    if count ≤ p.document then some (.unknownDocument term p.document count)
    else if previous.any (fun d => p.document ≤ d) then some (.unorderedPostings term p.document)
    else if !isConsistent p then some (.badPositions term p.document)
    else faultIn? count term (some p.document) rest

def faultOf? (count : UInt32) (term : String) (postings : List Posting) : Option IndexFault :=
  if postings.isEmpty then some (.noPostings term) else faultIn? count term none postings

/-- The first fault of an index: the table of lengths, and then the terms in order. -/
def fault? {α : Type} (index : Index α) : Option IndexFault :=
  if index.lengths.length ≠ index.documentCount.toNat then
    some (.lengthMismatch index.documentCount.toNat index.lengths.length)
  else index.terms.entries.findSome? fun (term, postings) => faultOf? index.documentCount term postings

end Index

end Concordance
