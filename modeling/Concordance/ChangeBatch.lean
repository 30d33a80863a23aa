import Concordance.Corpus

/-!
# Batches of changes

While articles are edited, the changes are gathered, and the index is built anew when no more of them
come or when the oldest has waited for too long. A batch holds the paths that changed, each once, and the
time of its first change.
-/

namespace Concordance

inductive ChangeKind where
  | created
  | modified
  | removed
  /-- Nothing that changes an article. -/
  | other
deriving DecidableEq, Repr

structure ChangeEvent where
  kind : ChangeKind
  paths : List String
deriving DecidableEq, Repr

/-- Changes that have not been dealt with. Times are counted in milliseconds. -/
structure ChangeBatch where
  paths : List (List PathPart) := []
  firstChange : Option Nat := none
deriving DecidableEq, Repr

namespace ChangeBatch

variable [Text.CharacterTable]

/-- The paths of an event that count: those of articles, if an article may have changed. -/
def relevant (extensions : List String) (event : ChangeEvent) : List (List PathPart) :=
  if event.kind = .other then []
  else (event.paths.filter (DirectoryCorpus.hasExtension extensions)).map Path.parts

/-- Records an event at the time `now`; says whether any path was new. -/
def record (batch : ChangeBatch) (extensions : List String) (event : ChangeEvent) (now : Nat) :
    Bool × ChangeBatch :=
  let paths := (relevant extensions event).foldl
    (fun paths p => if paths.contains p then paths else paths ++ [p]) batch.paths
  let recorded := decide (batch.paths.length < paths.length)
  (recorded, ⟨paths, if recorded then batch.firstChange.or (some now) else batch.firstChange⟩)

/-- The oldest change has waited for `maxAge` at the time `now`. -/
def isOverdue (batch : ChangeBatch) (now maxAge : Nat) : Bool :=
  batch.firstChange.any fun first => maxAge ≤ now - first

def isEmpty (batch : ChangeBatch) : Bool :=
  batch.paths.isEmpty

def size (batch : ChangeBatch) : Nat :=
  batch.paths.length

def clear (_ : ChangeBatch) : ChangeBatch := {}

end ChangeBatch

end Concordance
