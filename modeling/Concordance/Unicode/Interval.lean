/-!
# Tables over blocks of code points

A table holds blocks of code points in ascending order, as a search tree. It is written as the list
of its blocks: the first and the last code point of each, and what is known of them. A mapping says
for each block which of its code points are changed, and to what.
-/

namespace Concordance.Unicode

/-- A block of code points, both ends included, and what is known of it. -/
structure Block (α : Type) where
  first : Nat
  last : Nat
  value : α

/-- Blocks that do not overlap: those on the left of a node come before its block, and those on the
right come behind it. -/
inductive Table (α : Type) where
  | empty
  | node (left : Table α) (block : Block α) (right : Table α)

namespace Table

variable {α : Type}

def find? (n : Nat) : Table α → Option (Block α)
  | .empty => none
  | .node left block right =>
    if n < block.first then find? n left
    else if block.last < n then find? n right
    else some block

def toList : Table α → List (Block α)
  | .empty => []
  | .node left block right => left.toList ++ block :: right.toList

def contains (table : Table α) (n : Nat) : Bool :=
  (table.find? n).isSome

def holds (table : Table α) (c : Char) : Bool :=
  table.contains c.toNat

/-- The tree, `depth` nodes deep at most, of the blocks at the front of a list, and the blocks that
it leaves. -/
def grow : (depth : Nat) → List (Block α) → Table α × List (Block α)
  | 0, blocks => (.empty, blocks)
  | depth + 1, blocks =>
    match grow depth blocks with
    | (left, []) => (left, [])
    | (left, block :: rest) =>
      let (right, rest) := grow depth rest
      (.node left block right, rest)

/-- The table of blocks in ascending order. -/
def ofList (blocks : List (Block α)) : Table α :=
  (grow (blocks.length.log2 + 1) blocks).1

end Table

/-! ### Properties -/

/-- The characters with a property, by the ends of their blocks. -/
def property (blocks : List (Nat × Nat)) : Table Unit :=
  .ofList (blocks.map fun (first, last) => ⟨first, last, ()⟩)

/-- The number of a code point, zero if no block holds it. -/
def Table.number (table : Table Nat) (n : Nat) : Nat :=
  match table.find? n with
  | some block => block.value
  | none => 0

/-! ### Mappings -/

/-- How the characters of a block are mapped: only those at a multiple of `stride` from the start,
to `images`; where the image is one character, it moves along with the character. -/
structure Images where
  stride : Nat
  images : List Nat

/-- The images of the code point at this distance from the start of a block, if it is changed. -/
def Images.at? (images : Images) (distance : Nat) : Option (List Nat) :=
  if distance % images.stride ≠ 0 then none
  else
    match images.images with
    | [image] => some [image + distance]
    | images => some images

namespace Table

/-- The image of a code point under a mapping; one that no block holds stays. -/
def imageOf (table : Table Images) (n : Nat) : List Nat :=
  match table.find? n with
  | none => [n]
  | some block => (block.value.at? (n - block.first)).getD [n]

def image (table : Table Images) (c : Char) : List Char :=
  (table.imageOf c.toNat).map Char.ofNat

end Table

end Concordance.Unicode
