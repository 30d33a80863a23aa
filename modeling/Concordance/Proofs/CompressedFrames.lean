import Concordance.Lz4.Frame
import Concordance.Proofs.Codecs

/-!
# Reading a frame that was written

A frame that was written holds the bytes it was written from: its header is in order, each of its
blocks is taken as it stands, and the mark of the end is no block.
-/

namespace Concordance.Lz4

/-- The header of the frames that are written. -/
def writtenHeader : Header := ⟨false, false, 65536⟩

/-- The mark, the description and the checksum of it are in order. -/
theorem readHeader?_written (rest : List UInt8) :
    readHeader? (littleEndian 4 frameMark ++ writtenDescription ++ [headerChecksum writtenDescription] ++
      rest) = some (writtenHeader, rest) := by
  have hdescribe : describe? 0x60 0x40 = some writtenHeader := by decide
  have hflags : (if (0x60 : UInt8) &&& 0x08 = 0 then 2 else 10) = 2 := by decide
  rw [readHeader?]
  simp only [List.append_assoc]
  rw [readNumber?_littleEndian (by decide)]
  simp only [Option.bind_eq_bind, Option.bind_some]
  rw [if_neg (by decide), if_neg (by decide)]
  simp only [writtenDescription, List.cons_append, List.nil_append, hdescribe, Option.bind_some, hflags,
    takeBytes?, Option.map_some, if_true, Option.pure_def]

/-- The mark of the end is no block. -/
theorem takeBlock?_end (header : Header) : takeBlock? header [0, 0, 0, 0] = none := by
  simp [takeBlock?, readNumber?, takeBytes?, ofLittleEndian]

/-- A block that is written is taken as it stands. -/
theorem takeBlock?_written {block : List UInt8} (hne : block ≠ [])
    (hlength : block.length ≤ writtenBlock + 1) (rest : List UInt8) :
    takeBlock? writtenHeader (littleEndian 4 (0x80000000 + block.length) ++ block ++ rest) =
      some (false, block, rest) := by
  have hpos := List.length_pos_iff.2 hne
  rw [writtenBlock] at hlength
  rw [takeBlock?, List.append_assoc, readNumber?_littleEndian (by omega)]
  simp only [Option.bind_eq_bind, Option.bind_some]
  rw [show (0x80000000 + block.length) % 0x80000000 = block.length by omega, if_neg, takeBytes?_append]
  · have hcompressed : decide (0x80000000 + block.length < 0x80000000) = false := by
      rw [decide_eq_false_iff_not]
      omega
    simp only [Option.bind_some, writtenHeader, Bool.not_false, if_true, hcompressed, Option.pure_def]
  · show ¬(_ ∨ 65536 < block.length)
    omega

/-- Blocks take at least the bytes they hold. -/
theorem length_le_length_writeBlocks (bytes : List UInt8) :
    bytes.length ≤ (writeBlocks bytes).length := by
  fun_induction writeBlocks bytes with
  | case1 => exact Nat.le_refl _
  | case2 b rest block ih =>
    rw [List.length_drop] at ih
    simp only [List.length_append, block, List.length_cons, List.length_take]
    omega

/-- A frame is longer than what it holds. -/
theorem length_le_length_writeFrame (bytes : List UInt8) :
    bytes.length ≤ (writeFrame bytes).length := by
  have := length_le_length_writeBlocks bytes
  simp only [writeFrame, List.length_append]
  omega

/-- The blocks that were written add their bytes to those before them. -/
theorem readBlocks_writeBlocks (bytes : List UInt8) {fuel : Nat} (hfuel : bytes.length < fuel)
    (place : Place) (out : Array UInt8) :
    readBlocks writtenHeader fuel place out (writeBlocks bytes ++ [0, 0, 0, 0]) =
      out ++ bytes.toArray := by
  induction bytes using writeBlocks.induct generalizing fuel place out with
  | case1 =>
    obtain ⟨fuel, rfl⟩ := Nat.exists_eq_succ_of_ne_zero (Nat.ne_of_gt hfuel)
    rw [readBlocks, writeBlocks, List.nil_append, takeBlock?_end]
    simp
  | case2 b rest ih =>
    rw [writeBlocks]
    obtain ⟨fuel, rfl⟩ := Nat.exists_eq_succ_of_ne_zero (Nat.ne_of_gt (Nat.zero_lt_of_lt hfuel))
    have hsplit : b :: rest.take writtenBlock ++ rest.drop writtenBlock = b :: rest := by
      rw [List.cons_append, List.take_append_drop]
    have hne : b :: rest.take writtenBlock ≠ [] := List.cons_ne_nil _ _
    have hblock : (b :: rest.take writtenBlock).length ≤ writtenBlock + 1 := by
      simp only [List.length_cons, List.length_take]
      omega
    generalize b :: rest.take writtenBlock = block at hsplit hne hblock ⊢
    -- reading goes on, since the block has added something
    have hgrows : ¬(out ++ block.toArray).size = out.size := by
      have := List.length_pos_iff.2 hne
      simp only [Array.size_append, List.size_toArray]
      omega
    rw [readBlocks, List.append_assoc _ (writeBlocks _), takeBlock?_written hne hblock]
    simp only [addBlock?, Bool.not_false, if_true, List.foldl_push_eq_append']
    rw [if_neg hgrows, ih]
    · rw [← hsplit, ← List.append_toArray, Array.append_assoc]
    · rw [List.length_drop]
      rw [List.length_cons] at hfuel
      omega

/-- A frame that was written holds what it was written from. -/
@[simp] theorem readFrame_writeFrame (bytes : List UInt8) : readFrame (writeFrame bytes) = bytes := by
  have hfuel : bytes.length < (writeBlocks bytes ++ [0, 0, 0, 0]).length := by
    have := length_le_length_writeBlocks bytes
    rw [List.length_append, List.length_cons]
    omega
  rw [readFrame, writeFrame, List.append_assoc _ (writeBlocks bytes), readHeader?_written]
  show (readBlocks writtenHeader _ _ #[] _).toList = bytes
  rw [readBlocks_writeBlocks bytes hfuel]
  simp

end Concordance.Lz4
