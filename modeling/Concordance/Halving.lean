/-!
# Search by halving

The last item of a list that does not lie above what is looked for. Half of the items are ruled out at
every step, and no step looks for an exact match, so the number of steps depends on the length alone.
On a list in ascending order this finds an item exactly if it is there.
-/

namespace Concordance

/-- The place reached from the `size` places that begin at `base`; `isAbove` tells whether the item of
a place lies above what is looked for. -/
def halve (isAbove : Nat → Bool) (base size : Nat) : Nat :=
  if size ≤ 1 then base
  else
    let half := size / 2
    halve isAbove (if isAbove (base + half) then base else base + half) (size - half)
termination_by size
decreasing_by omega

/-- The item with this key, in a list in ascending order of the keys. -/
def findByKey? {α : Type} (key : α → UInt32) (wanted : UInt32) (items : List α) : Option α :=
  let table := items.toArray
  let isAbove (place : Nat) : Bool := (table[place]?.map fun item => decide (wanted < key item)).getD false
  match table[halve isAbove 0 table.size]? with
  | some item => if key item = wanted then some item else none
  | none => none

end Concordance
