import Concordance.Halving
import Concordance.Index.Basic

/-!
# Phrases

A phrase occurs in a document where its terms stand at consecutive positions. The documents that hold
all terms are found first, and then the starts are counted.

Behind the last position of 32 bits no other comes, but an index may record it, and counting on from it
begins anew at zero. The search for a phrase tells whether that has happened (`Wrapped`): a program that
checks its sums stops there, one that does not goes on with the sum that began anew.
-/

namespace Concordance

/-- A value, and whether a sum on the way to it went beyond 32 bits and began anew. -/
structure Wrapped (α : Type) where
  value : α
  overflowed : Bool
deriving DecidableEq, Repr

namespace Wrapped

variable {α β : Type}

instance : Monad Wrapped where
  pure a := ⟨a, false⟩
  bind x f := ⟨(f x.value).value, x.overflowed || (f x.value).overflowed⟩

@[simp] theorem value_pure (a : α) : (pure a : Wrapped α).value = a := rfl

@[simp] theorem overflowed_pure (a : α) : (pure a : Wrapped α).overflowed = false := rfl

@[simp] theorem value_bind (x : Wrapped α) (f : α → Wrapped β) : (x >>= f).value = (f x.value).value := rfl

@[simp] theorem overflowed_bind (x : Wrapped α) (f : α → Wrapped β) :
    (x >>= f).overflowed = (x.overflowed || (f x.value).overflowed) := rfl

def all (items : List (Wrapped α)) : Wrapped (List α) :=
  ⟨items.map value, items.any overflowed⟩

end Wrapped

namespace Index

/-- The numbers that are in both of two ascending lists. -/
def intersect : List DocId → List DocId → List DocId
  | [], _ => []
  | _, [] => []
  | a :: as, b :: bs =>
    if a = b then a :: intersect as bs
    else if a < b then intersect as (b :: bs)
    else intersect (a :: as) bs
termination_by as bs => as.length + bs.length

/-- The documents that are in all of the lists of postings. -/
def commonDocuments : List (List Posting) → List DocId
  | [] => []
  | first :: rest =>
    rest.foldl (fun common postings => intersect common (postings.map Posting.document))
      (first.map Posting.document)

def positionsIn (postings : List Posting) (n : DocId) : List UInt32 :=
  match findByKey? Posting.document n postings with
  | some p => p.positions
  | none => []

def lastPosition : UInt32 := 0xFFFFFFFF

def next (position : UInt32) : Wrapped UInt32 :=
  ⟨position + 1, position == lastPosition⟩

/-- Each list holds the position after the one before it, from `start` on. The first that does not ends the
comparison. -/
def continues (start : UInt32) : List (List UInt32) → Wrapped Bool
  | [] => pure true
  | positions :: rest => do
    let position ← next start
    if (findByKey? id position positions).isSome then continues position rest else pure false

/-- How many positions of the first list are continued by the others. -/
def countStarts : List (List UInt32) → Wrapped Nat
  | [] => pure 0
  | first :: rest => do
    return (← Wrapped.all (first.map fun start => continues start rest)).count true

/-- The documents in which the terms stand one after the other, with the number of places. -/
def phraseHits {α : Type} (index : Index α) (terms : List String) : Wrapped (List (DocId × UInt32)) :=
  let lists := terms.map index.postings
  if lists.any List.isEmpty then pure []
  else do
    let counted ← Wrapped.all ((commonDocuments lists).map fun n => do
      return (n, UInt32.ofNat (← countStarts (lists.map (positionsIn · n)))))
    return counted.filter fun (_, count) => count ≠ 0

end Index

end Concordance
