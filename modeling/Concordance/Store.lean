import Concordance.Document

/-!
# Document stores

A store holds documents in strictly ascending order of their ids, so no id comes twice, and the place of
a document in that order is its number. Whatever order the documents arrive in, the store is the same.
-/

namespace Concordance

abbrev DocId := UInt32

/-- Documents in strictly ascending order of their ids, at least one. -/
structure Store where
  documents : List Document
  ascending : documents.Pairwise fun a b => a.id < b.id
  nonempty : documents ≠ []

namespace Store

/-- The id of the first document that has the id of the one before it. -/
def firstRepeat? : List Document → Option String
  | a :: b :: rest => if a.id = b.id then some b.id else firstRepeat? (b :: rest)
  | _ => none

/-- Documents in ascending order of their ids; documents of one id keep their order. -/
def sort (documents : List Document) : List Document :=
  documents.mergeSort fun a b => decide (a.id ≤ b.id)

def ofDocuments (source : String) (documents : List Document) : Except LoadError Store :=
  let sorted := sort documents
  if hne : sorted = [] then .error (.empty source)
  else if h : sorted.Pairwise fun a b => a.id < b.id then .ok ⟨sorted, h, hne⟩
  else .error (.duplicateId ((firstRepeat? sorted).getD ""))

def ofList (documents : List Document) : Except LoadError Store :=
  ofDocuments "document list" documents

def memoryName (documents : List Document) : String :=
  "in-memory corpus (" ++ toString documents.length ++ " documents)"

def ofMemory (documents : List Document) : Except LoadError Store :=
  ofDocuments (memoryName documents) documents

def size (store : Store) : Nat :=
  store.documents.length

def document? (store : Store) (n : DocId) : Option Document :=
  store.documents[n.toNat]?

def number? (store : Store) (id : String) : Option DocId :=
  (store.documents.findIdx? fun d => d.id == id).map UInt32.ofNat

def get? (store : Store) (id : String) : Option Document :=
  store.documents.find? fun d => d.id == id

def numbered (store : Store) : List (DocId × Document) :=
  store.documents.zipIdx.map fun (d, n) => (UInt32.ofNat n, d)

end Store

end Concordance
