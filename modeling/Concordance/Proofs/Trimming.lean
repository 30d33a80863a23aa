import Concordance.Text.Blank
import Concordance.Text.Split
import Mathlib.Data.List.DropRight

/-!
# What trimming and splitting leave

Trimming gives a stretch of the text whose ends do not satisfy the predicate, and a text that is so
already stays as it is. The pieces of a split hold no separator; a text without separators is its
own only piece, and a separator cuts a split in two. A line ends at the first line feed.
-/

namespace Concordance.Text

variable {p : Char → Bool} {cs : List Char}

/-! ### Trimming -/

theorem trimEndBy_eq_rdropWhile (p : Char → Bool) (cs : List Char) :
    trimEndBy p cs = cs.rdropWhile p := by
  induction cs with
  | nil => rfl
  | cons c rest ih =>
      rw [trimEndBy, ih, List.rdropWhile, List.rdropWhile, List.reverse_cons, List.dropWhile_append]
      cases hr : rest.reverse.dropWhile p with
      | nil => cases hc : p c <;> simp [hc]
      | cons d ds =>
          have hne : (d :: ds).reverse ≠ [] := by simp
          split
          · next h => exact absurd h hne
          · simp

theorem infix_trimBy (p : Char → Bool) (cs : List Char) : trimBy p cs <:+: cs := by
  have hstart : trimBy p cs <+: cs.dropWhile p := by
    rw [trimBy, trimEndBy_eq_rdropWhile, trimStartBy]
    exact List.rdropWhile_prefix p _
  exact hstart.isInfix.trans (List.dropWhile_suffix p).isInfix

/-- Trimmed text ends with a character that stays. -/
theorem getLast_trimBy (h : trimBy p cs ≠ []) : p ((trimBy p cs).getLast h) = false := by
  have hlast := List.rdropWhile_last_not p (cs.dropWhile p)
  simp only [trimBy, trimEndBy_eq_rdropWhile, trimStartBy] at h ⊢
  simpa using hlast h

/-- Trimmed text begins with a character that stays. -/
theorem head_trimBy (h : trimBy p cs ≠ []) : p ((trimBy p cs).head h) = false := by
  have hfront : trimBy p cs <+: cs.dropWhile p := by
    rw [trimBy, trimEndBy_eq_rdropWhile, trimStartBy]
    exact List.rdropWhile_prefix p _
  rw [hfront.head h]
  exact List.head_dropWhile_not p _

/-- The first character that stays is the first one of what is left. -/
theorem exists_trimBy_eq_cons {c : Char} {behind : List Char} (h : cs.dropWhile p = c :: behind) :
    ∃ rest, trimBy p cs = c :: rest := by
  have hc : p c = false := by
    have hne : cs.dropWhile p ≠ [] := by simp [h]
    simpa [h] using List.head_dropWhile_not p hne
  rw [trimBy, trimStartBy, h, trimEndBy]
  split
  · exact ⟨[], by rw [hc, if_neg Bool.false_ne_true]⟩
  · exact ⟨_, rfl⟩

/-- Text whose first and last character stay is trimmed already. -/
theorem trimBy_eq_self (hne : cs ≠ []) (hhead : p (cs.head hne) = false)
    (hlast : p (cs.getLast hne) = false) : trimBy p cs = cs := by
  have hstart : cs.dropWhile p = cs := by
    obtain ⟨c, rest, rfl⟩ := List.exists_cons_of_ne_nil hne
    simp only [List.head_cons] at hhead
    simp [hhead]
  rw [trimBy, trimStartBy, hstart, trimEndBy_eq_rdropWhile, List.rdropWhile_eq_self_iff]
  intro _
  simp [hlast]

/-- Trimming is done after one pass. -/
@[simp] theorem trimBy_trimBy (p : Char → Bool) (cs : List Char) : trimBy p (trimBy p cs) = trimBy p cs := by
  by_cases hne : trimBy p cs = []
  · rw [hne]
    rfl
  · exact trimBy_eq_self hne (head_trimBy hne) (getLast_trimBy hne)

/-- What is trimmed away at the ends does not matter. -/
theorem trimBy_append {front back : List Char} (hfront : ∀ c ∈ front, p c = true)
    (hback : ∀ c ∈ back, p c = true) (cs : List Char) :
    trimBy p (front ++ cs ++ back) = trimBy p cs := by
  have hend (cs : List Char) : (cs ++ back).rdropWhile p = cs.rdropWhile p := by
    rw [List.rdropWhile, List.reverse_append,
      List.dropWhile_append_of_pos (by simpa using hback), ← List.rdropWhile]
  rw [List.append_assoc, trimBy, trimBy, trimEndBy_eq_rdropWhile, trimEndBy_eq_rdropWhile,
    trimStartBy, trimStartBy, List.dropWhile_append_of_pos hfront, List.dropWhile_append]
  split
  · next hall =>
      rw [List.isEmpty_iff.1 hall, List.dropWhile_eq_nil_iff.2 hback]
  · exact hend _

/-- What is left with what was trimmed away. -/
theorem takeWhile_append_trimBy (p : Char → Bool) (cs : List Char) :
    ∃ back, cs = cs.takeWhile p ++ trimBy p cs ++ back ∧ ∀ c ∈ back, p c = true := by
  refine ⟨(cs.dropWhile p).rtakeWhile p, ?_, fun c hc => List.mem_rtakeWhile_imp hc⟩
  rw [trimBy, trimEndBy_eq_rdropWhile, trimStartBy, List.append_assoc,
    List.rdropWhile_append_rtakeWhile, List.takeWhile_append_dropWhile]

/-- Changing characters to others that are trimmed as they are. -/
theorem trimBy_map {f : Char → Char} (hf : ∀ c, p (f c) = p c) (cs : List Char) :
    trimBy p (cs.map f) = (trimBy p cs).map f := by
  have hcomp : p ∘ f = p := funext hf
  rw [trimBy, trimBy, trimStartBy, trimStartBy, trimEndBy_eq_rdropWhile, trimEndBy_eq_rdropWhile,
    List.dropWhile_map, List.rdropWhile, List.rdropWhile, ← List.map_reverse, List.dropWhile_map,
    hcomp, List.map_reverse]

/-! ### Splitting at every separator -/

section Split

variable {α : Type} {q : α → Bool} {items before after : List α}

theorem splitBy_ne_nil (q : α → Bool) (items : List α) : splitBy q items ≠ [] := by
  intro h
  have := length_splitBy q items
  simp [h] at this

/-- A text without separators is its own only piece. -/
theorem splitBy_of_none (h : ∀ c ∈ items, q c = false) : splitBy q items = [items] := by
  induction items with
  | nil => rfl
  | cons c rest ih =>
      rw [splitBy, ih fun d hd => h d (List.mem_cons_of_mem _ hd)]
      simp [h c List.mem_cons_self]

/-- A separator cuts a split in two. -/
theorem splitBy_append_cons {s : α} (hs : q s = true) (before after : List α) :
    splitBy q (before ++ s :: after) = splitBy q before ++ splitBy q after := by
  induction before with
  | nil => simp [splitBy, hs]
  | cons c rest ih =>
      rw [List.cons_append, splitBy, splitBy, ih]
      by_cases hc : q c = true
      · simp [hc]
      · cases hr : splitBy q rest with
        | nil => exact absurd hr (splitBy_ne_nil q rest)
        | cons piece pieces => simp [hc]

/-- What stands before the first separator is part of the first piece. -/
theorem splitBy_append_of_none {front rest first : List α} {pieces : List (List α)}
    (h : ∀ c ∈ front, q c = false) (hrest : splitBy q rest = first :: pieces) :
    splitBy q (front ++ rest) = (front ++ first) :: pieces := by
  induction front with
  | nil => exact hrest
  | cons c front ih =>
      have hc : q c = false := h c List.mem_cons_self
      rw [List.cons_append, splitBy, ih fun d hd => h d (List.mem_cons_of_mem _ hd)]
      simp [hc]

/-- The pieces one behind the other are what is split, without the separators. -/
theorem flatten_splitBy (q : α → Bool) (items : List α) :
    (splitBy q items).flatten = items.filter (!q ·) := by
  induction items with
  | nil => rfl
  | cons c rest ih =>
      rw [splitBy, List.filter_cons]
      cases hc : q c with
      | true => simpa using ih
      | false =>
          cases hr : splitBy q rest with
          | nil => exact absurd hr (splitBy_ne_nil q rest)
          | cons piece pieces =>
              rw [hr] at ih
              simpa using ih

/-- Pieces without separators that were put together are what a split gives back. -/
theorem splitBy_intercalate {s : α} (hs : q s = true) {pieces : List (List α)} (hne : pieces ≠ [])
    (h : ∀ piece ∈ pieces, ∀ c ∈ piece, q c = false) : splitBy q ([s].intercalate pieces) = pieces := by
  induction pieces with
  | nil => exact absurd rfl hne
  | cons piece pieces ih =>
      have hpiece : splitBy q piece = [piece] := splitBy_of_none (h piece List.mem_cons_self)
      cases pieces with
      | nil => rw [List.intercalate_singleton, hpiece]
      | cons next rest =>
          have hrest := ih (List.cons_ne_nil _ _) fun p hp => h p (List.mem_cons_of_mem _ hp)
          rw [List.intercalate_cons_cons, List.append_assoc, List.singleton_append, splitBy_append_cons hs,
            hpiece, hrest, List.singleton_append]

/-- What is in none of the pieces is not in what they are put together to. -/
theorem not_mem_intercalate {c s : α} (hc : c ≠ s) {pieces : List (List α)}
    (h : ∀ piece ∈ pieces, c ∉ piece) : c ∉ [s].intercalate pieces := by
  induction pieces with
  | nil => simp
  | cons piece pieces ih =>
      have hpiece := h piece List.mem_cons_self
      cases pieces with
      | nil => rwa [List.intercalate_singleton]
      | cons next rest =>
          have hrest := ih fun p hp => h p (List.mem_cons_of_mem _ hp)
          rw [List.intercalate_cons_cons]
          simp [hpiece, hc, hrest]

/-- The pieces of a split hold what is split, without the separators. -/
theorem mem_of_mem_splitBy {piece : List α} (h : piece ∈ splitBy q items) :
    ∀ c ∈ piece, c ∈ items ∧ q c = false := by
  induction items generalizing piece with
  | nil => simp_all [splitBy]
  | cons d rest ih =>
      intro c hc
      rw [splitBy] at h
      split at h
      · rcases List.mem_cons.1 h with rfl | h
        · simp at hc
        · exact ⟨List.mem_cons_of_mem _ (ih h c hc).1, (ih h c hc).2⟩
      · next hd =>
        -- d joins the first of the pieces behind it
        cases hr : splitBy q rest with
        | nil => exact absurd hr (splitBy_ne_nil q rest)
        | cons first pieces =>
            rw [hr] at h
            rcases List.mem_cons.1 h with rfl | h
            · rcases List.mem_cons.1 hc with rfl | hc
              · exact ⟨List.mem_cons_self, by simpa using hd⟩
              · have := ih (hr ▸ List.mem_cons_self) c hc
                exact ⟨List.mem_cons_of_mem _ this.1, this.2⟩
            · have := ih (hr ▸ List.mem_cons_of_mem _ h) c hc
              exact ⟨List.mem_cons_of_mem _ this.1, this.2⟩

/-- Changing items to others at which a split is cut as it is. -/
theorem splitBy_map {f : α → α} (hf : ∀ c, q (f c) = q c) (items : List α) :
    splitBy q (items.map f) = (splitBy q items).map (List.map f) := by
  induction items with
  | nil => rfl
  | cons c rest ih =>
      rw [List.map_cons, splitBy, splitBy, ih, hf]
      split
      · rfl
      · cases splitBy q rest with
        | nil => rfl
        | cons piece pieces => rfl

end Split

/-! ### Putting pieces together -/

theorem joinWith_eq_intercalate (separator : List Char) (pieces : List (List Char)) :
    joinWith separator pieces = separator.intercalate pieces := by
  fun_induction joinWith separator pieces with
  | case1 => rfl
  | case2 piece => rw [List.intercalate_singleton]
  | case3 piece pieces hne ih =>
      obtain ⟨next, rest, rfl⟩ := List.exists_cons_of_ne_nil hne
      rw [List.intercalate_cons_cons, ih]

/-- Behind the first piece, every piece has the separator before it. -/
theorem joinWith_cons (separator piece : List Char) (pieces : List (List Char)) :
    joinWith separator (piece :: pieces) = piece ++ pieces.flatMap (separator ++ ·) := by
  induction pieces generalizing piece with
  | nil => simp [joinWith]
  | cons next rest ih =>
      rw [joinWith, ih, List.flatMap_cons, List.append_assoc, List.append_assoc]
      exact List.cons_ne_nil _ _

/-! ### Lines -/

section Lines

variable {line : List Char}

theorem linesFrom_of_not_mem {cs : List Char} (hne : cs ≠ []) (h : '\n' ∉ cs) (current : List Char) :
    linesFrom current cs = [current.reverse ++ cs] := by
  induction cs generalizing current with
  | nil => exact absurd rfl hne
  | cons c rest ih =>
      obtain ⟨hc, hrest⟩ := List.ne_and_not_mem_of_not_mem_cons h
      rw [linesFrom]
      · cases rest with
        | nil => simp [linesFrom]
        | cons d rest =>
            rw [ih (List.cons_ne_nil d rest) hrest, List.reverse_cons, List.append_assoc]
            rfl
      · exact Ne.symm hc

theorem dropCarriageReturn_eq_self (h : '\r' ∉ line) : dropCarriageReturn line = line := by
  rw [dropCarriageReturn]
  split
  · next hlast => exact absurd (List.mem_of_getLast? hlast) h
  · rfl

/-- A line feed ends the first line, and the rest is read on its own. -/
theorem linesFrom_append_lineFeed (h : '\n' ∉ line) (current behind : List Char) :
    linesFrom current (line ++ '\n' :: behind) =
      dropCarriageReturn (current.reverse ++ line) :: linesFrom [] behind := by
  induction line generalizing current with
  | nil => rw [List.nil_append, linesFrom, List.append_nil]
  | cons c line ih =>
      obtain ⟨hc, hline⟩ := List.ne_and_not_mem_of_not_mem_cons h
      rw [List.cons_append, linesFrom, ih hline, List.reverse_cons, List.append_assoc]
      · rfl
      · exact Ne.symm hc

/-- A line ends at the first line feed. -/
theorem lines_append_lineFeed (hfeed : '\n' ∉ line) (hreturn : '\r' ∉ line) (behind : List Char) :
    lines (line ++ '\n' :: behind) = line :: lines behind := by
  rw [lines, linesFrom_append_lineFeed hfeed, List.reverse_nil, List.nil_append,
    dropCarriageReturn_eq_self hreturn]
  rfl

end Lines

/-! ### Splitting once -/

section Once

variable {s : Char} {cs before after : List Char}

/-- The first separator is the one that a text is split at. -/
theorem splitOnce?_eq_some (h : splitOnce? s cs = some (before, after)) :
    cs = before ++ s :: after ∧ s ∉ before := by
  induction cs generalizing before with
  | nil => cases h
  | cons c rest ih =>
      rw [splitOnce?] at h
      split at h
      · next hc =>
          cases h
          exact ⟨by rw [hc]; rfl, by simp⟩
      · next hc =>
          obtain ⟨⟨front, back⟩, hrest, hpair⟩ := Option.map_eq_some_iff.1 h
          cases hpair
          obtain ⟨heq, hnot⟩ := ih hrest
          exact ⟨by rw [heq]; rfl, List.not_mem_cons_of_ne_of_not_mem (Ne.symm hc) hnot⟩

theorem splitOnce?_append (h : s ∉ before) (after : List Char) :
    splitOnce? s (before ++ s :: after) = some (before, after) := by
  induction before with
  | nil => simp [splitOnce?]
  | cons c rest ih =>
      obtain ⟨hc, hrest⟩ := List.ne_and_not_mem_of_not_mem_cons h
      rw [List.cons_append, splitOnce?, if_neg (Ne.symm hc), ih hrest]
      rfl

theorem not_mem_of_splitOnce?_eq_none (h : splitOnce? s cs = none) : s ∉ cs := by
  induction cs with
  | nil => exact List.not_mem_nil
  | cons c rest ih =>
      rw [splitOnce?] at h
      split at h
      · cases h
      · next hc => exact List.not_mem_cons_of_ne_of_not_mem (Ne.symm hc) (ih (Option.map_eq_none_iff.1 h))

theorem not_mem_of_splitLast?_eq_none (h : splitLast? s cs = none) : s ∉ cs := by
  rw [splitLast?, Option.map_eq_none_iff] at h
  simpa using not_mem_of_splitOnce?_eq_none h

/-- The last separator is the one that no other comes behind. -/
theorem splitLast?_eq_some_iff :
    splitLast? s cs = some (before, after) ↔ cs = before ++ s :: after ∧ s ∉ after := by
  rw [splitLast?]
  constructor
  · intro h
    obtain ⟨⟨back, front⟩, hsplit, hpair⟩ := Option.map_eq_some_iff.1 h
    cases hpair
    obtain ⟨heq, hnot⟩ := splitOnce?_eq_some hsplit
    exact ⟨by simpa using congrArg List.reverse heq, by simpa using hnot⟩
  · rintro ⟨rfl, hnot⟩
    rw [List.reverse_append, List.reverse_cons, List.append_assoc, List.singleton_append,
      splitOnce?_append (by simpa using hnot)]
    simp

end Once

end Concordance.Text
