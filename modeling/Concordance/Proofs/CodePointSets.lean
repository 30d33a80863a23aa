import Concordance.Unicode.Interval
import Mathlib.Algebra.Ring.Nat
import Mathlib.Data.Nat.Log

/-!
# Sets of code points

What is found in a table is one of its blocks, and every code point of a block of an ascending table
is found. Statements about all characters of a table are then checked on sets of code points that
are held as numbers, a code point being a bit: two tables share no character if the bitwise `and` of
their sets is zero, which takes one operation however large the tables are.
-/

namespace Concordance.Unicode

variable {α : Type}

/-! ## Tables and their lists of blocks -/

namespace Table

/-- The tree has the blocks at the front of the list, in their order, and leaves the others. -/
theorem grow_fst_append (depth : Nat) (blocks : List (Block α)) :
    (grow depth blocks).1.toList ++ (grow depth blocks).2 = blocks := by
  induction depth generalizing blocks with
  | zero => rfl
  | succ depth ih =>
      have hleft := ih blocks
      rw [grow]
      split
      · next left h => simpa [h] using hleft
      · next left block rest h =>
          rw [h] at hleft
          simp only [toList, List.append_assoc, List.cons_append]
          rw [ih rest]
          exact hleft

/-- A tree of a given depth takes as many blocks as it has room for. -/
theorem grow_snd (depth : Nat) (blocks : List (Block α)) :
    (grow depth blocks).2 = blocks.drop (2 ^ depth - 1) := by
  induction depth generalizing blocks with
  | zero => rfl
  | succ depth ih =>
      have hpos : 0 < 2 ^ depth := Nat.two_pow_pos depth
      have hleft := ih blocks
      rw [grow]
      split
      · next left h =>
          rw [h] at hleft
          have hlen := List.drop_eq_nil_iff.1 hleft.symm
          exact (List.drop_eq_nil_iff.2 (by rw [Nat.pow_succ]; omega)).symm
      · next left block rest h =>
          rw [h] at hleft
          show (grow depth rest).2 = _
          -- the left tree takes `2 ^ depth - 1` blocks and the node takes one
          have hrest : blocks.drop (2 ^ depth) = rest := by
            have := congrArg (List.drop 1) hleft
            rw [List.drop_drop] at this
            simpa [Nat.sub_add_cancel hpos] using this.symm
          rw [ih rest, ← hrest, List.drop_drop]
          congr 1
          rw [Nat.pow_succ]
          omega

/-- The table of a list of blocks holds just these blocks. -/
@[simp] theorem toList_ofList (blocks : List (Block α)) : (ofList blocks).toList = blocks := by
  have hall := grow_fst_append (blocks.length.log2 + 1) blocks
  have hlen : blocks.length ≤ 2 ^ (blocks.length.log2 + 1) - 1 :=
    Nat.le_sub_one_of_lt Nat.lt_log2_self
  rw [grow_snd, List.drop_eq_nil_iff.2 hlen, List.append_nil] at hall
  exact hall

/-- A block that is found is one of the table and holds the code point. -/
theorem mem_of_find? {n : Nat} {table : Table α} {block : Block α}
    (h : table.find? n = some block) :
    block ∈ table.toList ∧ block.first ≤ n ∧ n ≤ block.last := by
  induction table with
  | empty => simp [find?] at h
  | node left middle right ihl ihr =>
      rw [find?] at h
      split at h
      · obtain ⟨hmem, hin⟩ := ihl h
        exact ⟨List.mem_append_left _ hmem, hin⟩
      · next hfirst =>
          split at h
          · obtain ⟨hmem, hin⟩ := ihr h
            exact ⟨List.mem_append_right _ (List.mem_cons_of_mem _ hmem), hin⟩
          · next hlast =>
              cases h
              exact ⟨by simp [toList], Nat.not_lt.1 hfirst, Nat.not_lt.1 hlast⟩

end Table

/-- Blocks in ascending order that do not overlap; none of them is empty. -/
structure Ascending (blocks : List (Block α)) : Prop where
  filled : ∀ block ∈ blocks, block.first ≤ block.last
  apart : blocks.Pairwise fun a b => a.last < b.first

/-- Every code point of a block is found. -/
theorem Table.find?_of_mem {n : Nat} {table : Table α} (h : Ascending table.toList)
    {block : Block α} (hmem : block ∈ table.toList) (hfirst : block.first ≤ n)
    (hlast : n ≤ block.last) : table.find? n = some block := by
  induction table with
  | empty => cases hmem
  | node left middle right ihl ihr =>
      obtain ⟨hleft, hright, hacross⟩ := List.pairwise_append.1 h.apart
      obtain ⟨hmiddle, hright⟩ := List.pairwise_cons.1 hright
      rw [find?]
      rcases List.mem_append.1 hmem with hmem' | hmem'
      · -- the middle block begins behind every block of the left subtree
        have hbefore := hacross block hmem' middle List.mem_cons_self
        rw [if_pos (by omega)]
        exact ihl ⟨fun b hb => h.filled b (List.mem_append_left _ hb), hleft⟩ hmem'
      · rcases List.mem_cons.1 hmem' with rfl | hmem'
        · rw [if_neg (by omega), if_neg (by omega)]
        · have hbehind := hmiddle block hmem'
          have hfilled := h.filled middle (by simp [toList])
          rw [if_neg (by omega), if_pos (by omega)]
          exact ihr ⟨fun b hb => h.filled b (List.mem_append_right _ (List.mem_cons_of_mem _ hb)),
            hright⟩ hmem'

/-- The blocks begin at `start` or behind it, are in ascending order and do not overlap. -/
def ascendsFrom (start : Nat) : List (Block α) → Bool
  | [] => true
  | block :: rest =>
    start.ble block.first && block.first.ble block.last && ascendsFrom (block.last + 1) rest

/-- The check of a list of blocks shows that they are apart and that none is empty. -/
theorem ascending_of_ascendsFrom {start : Nat} {blocks : List (Block α)}
    (h : ascendsFrom start blocks = true) :
    Ascending blocks ∧ ∀ block ∈ blocks, start ≤ block.first := by
  induction blocks generalizing start with
  | nil => exact ⟨⟨by simp, .nil⟩, by simp⟩
  | cons block rest ih =>
      simp only [ascendsFrom, Bool.and_eq_true, Nat.ble_eq] at h
      obtain ⟨⟨hstart, hfilled⟩, hrest⟩ := h
      obtain ⟨hasc, hbehind⟩ := ih hrest
      refine ⟨⟨?_, List.pairwise_cons.2 ⟨fun b hb => hbehind b hb, hasc.apart⟩⟩, ?_⟩
      · intro b hb
        rcases List.mem_cons.1 hb with rfl | hb
        · exact hfilled
        · exact hasc.filled b hb
      · intro b hb
        rcases List.mem_cons.1 hb with rfl | hb
        · exact hstart
        · have := hbehind b hb
          omega

/-! ## Sets as numbers -/

abbrev PointSet := Nat

namespace PointSet

def span (first last : Nat) : PointSet :=
  (2 ^ (last + 1 - first) - 1) <<< first

@[simp] theorem testBit_span (first last n : Nat) :
    (span first last).testBit n = true ↔ first ≤ n ∧ n ≤ last := by
  simp only [span, Nat.testBit_shiftLeft, Nat.testBit_two_pow_sub_one, Bool.and_eq_true,
    decide_eq_true_eq]
  omega

def ofPoints (points : List Nat) : PointSet :=
  points.foldr (fun n set => 2 ^ n ||| set) 0

@[simp] theorem testBit_ofPoints (points : List Nat) (n : Nat) :
    (ofPoints points).testBit n = true ↔ n ∈ points := by
  induction points with
  | nil => simp [ofPoints]
  | cons m rest ih =>
      show (2 ^ m ||| ofPoints rest).testBit n = true ↔ _
      rw [Nat.testBit_or, Bool.or_eq_true, ih, Nat.testBit_two_pow, decide_eq_true_eq,
        List.mem_cons, eq_comm]

/-- The union of sets, one for each item of a list. -/
def union {β : Type} (set : β → PointSet) (items : List β) : PointSet :=
  items.foldr (fun item all => set item ||| all) 0

@[simp] theorem testBit_union {β : Type} (set : β → PointSet) (items : List β) (n : Nat) :
    (union set items).testBit n = true ↔ ∃ item ∈ items, (set item).testBit n = true := by
  induction items with
  | nil => simp [union]
  | cons item rest ih =>
      show (set item ||| union set rest).testBit n = true ↔ _
      rw [Nat.testBit_or, Bool.or_eq_true, ih]
      simp

/-- Sets with nothing in common. -/
theorem not_mem_of_and_eq_zero {a b : PointSet} (h : a &&& b = 0) {n : Nat}
    (ha : a.testBit n = true) : b.testBit n = false := by
  have := congrArg (Nat.testBit · n) h
  simpa [ha] using this

/-- A set within another one. -/
theorem mem_of_and_eq_self {a b : PointSet} (h : a &&& b = a) {n : Nat}
    (ha : a.testBit n = true) : b.testBit n = true := by
  have := congrArg (Nat.testBit · n) h
  simpa [ha] using this

end PointSet

def pointsOf (blocks : List (Block α)) : PointSet :=
  PointSet.union (fun block => PointSet.span block.first block.last) blocks

theorem testBit_pointsOf (blocks : List (Block α)) (n : Nat) :
    (pointsOf blocks).testBit n = true ↔
      ∃ block ∈ blocks, block.first ≤ n ∧ n ≤ block.last := by
  simp only [pointsOf, PointSet.testBit_union, PointSet.testBit_span]

/-- A table contains the code points of its blocks and no others. -/
theorem Table.contains_iff {table : Table α} (h : Ascending table.toList) (n : Nat) :
    table.contains n = true ↔ (pointsOf table.toList).testBit n = true := by
  rw [testBit_pointsOf, contains, Option.isSome_iff_exists]
  constructor
  · rintro ⟨block, hb⟩
    exact ⟨block, mem_of_find? hb⟩
  · rintro ⟨block, hmem, hfirst, hlast⟩
    exact ⟨block, find?_of_mem h hmem hfirst hlast⟩

/-! ## Mappings -/

/-- The code points of a block that are changed, with their images. -/
def Block.changes (block : Block Images) : List (Nat × List Nat) :=
  (List.range (block.last + 1 - block.first)).filterMap fun distance =>
    (block.value.at? distance).map fun images => (block.first + distance, images)

/-- A code point that no block holds keeps its place. -/
theorem Table.imageOf_of_find?_eq_none {table : Table Images} {n : Nat} (h : table.find? n = none) :
    table.imageOf n = [n] := by
  simp [imageOf, h]

/-- A code point keeps its place or is one of the changes of a block. -/
theorem Table.imageOf_eq_or_mem (table : Table Images) (n : Nat) :
    table.imageOf n = [n] ∨ ∃ block ∈ table.toList, (n, table.imageOf n) ∈ block.changes := by
  cases hfind : table.find? n with
  | none => exact .inl (imageOf_of_find?_eq_none hfind)
  | some block =>
      obtain ⟨hmem, hfirst, hlast⟩ := mem_of_find? hfind
      cases hat : block.value.at? (n - block.first) with
      | none => exact .inl (by simp [imageOf, hfind, hat])
      | some images =>
          refine .inr ⟨block, hmem, List.mem_filterMap.2 ⟨n - block.first, ?_, ?_⟩⟩
          · exact List.mem_range.2 (by omega)
          · simp [imageOf, hfind, hat, Nat.add_sub_cancel' hfirst]

/-- A block without gaps changes all of its code points. -/
theorem Table.mem_changes_of_find? {n : Nat} {table : Table Images} {block : Block Images}
    (hfind : table.find? n = some block) (hdense : block.value.stride = 1) :
    (n, table.imageOf n) ∈ block.changes := by
  obtain ⟨-, hfirst, hlast⟩ := mem_of_find? hfind
  obtain ⟨images, hat⟩ : ∃ images, block.value.at? (n - block.first) = some images := by
    rw [Images.at?, hdense, if_neg (by simp [Nat.mod_one])]
    split
    · exact ⟨_, rfl⟩
    · exact ⟨_, rfl⟩
  refine List.mem_filterMap.2 ⟨n - block.first, List.mem_range.2 (by omega), ?_⟩
  simp [imageOf, hfind, hat, Nat.add_sub_cancel' hfirst]

def Block.imageSet (block : Block Images) : PointSet :=
  match block.value.images with
  | [image] => PointSet.span image (image + (block.last - block.first))
  | images => PointSet.ofPoints images

/-- Every image of a code point of a block is in the set of images. -/
theorem Block.testBit_imageSet {block : Block Images} {n d : Nat} {images : List Nat}
    (h : (n, images) ∈ block.changes) (hd : d ∈ images) : block.imageSet.testBit d = true := by
  obtain ⟨distance, hrange, hat⟩ := List.mem_filterMap.1 h
  obtain ⟨images', hat, hpair⟩ := Option.map_eq_some_iff.1 hat
  obtain rfl : images' = images := (Prod.mk.inj hpair).2
  have hlt := List.mem_range.1 hrange
  rw [imageSet]
  rw [Images.at?] at hat
  split at hat
  · -- the code point is not at a multiple of the stride, so it has no image
    cases hat
  · cases himages : block.value.images with
    | nil => simp_all
    | cons image rest =>
        rw [himages] at hat
        cases rest with
        | nil =>
            cases hat
            rw [List.mem_singleton] at hd
            subst hd
            exact (PointSet.testBit_span _ _ _).2 (by omega)
        | cons next rest =>
            cases hat
            exact (PointSet.testBit_ofPoints _ _).2 hd

end Concordance.Unicode
