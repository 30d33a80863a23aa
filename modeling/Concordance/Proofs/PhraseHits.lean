import Concordance.Proofs.LosslessIndexes
import Mathlib.Data.Set.Card

/-!
# Phrases in any well-formed index

An index that passes the check need not be the index of a store. Whatever it records, a phrase is found in
the documents that record its terms at consecutive positions, and the number that comes with a document is
the number of places from which they do (`phraseHits_iff`). All that is asked of the positions is that
counting on from them stays within 32 bits: the search goes beyond the last position exactly if a document
has the first terms of a phrase, but not all of them, up to that position (`overflowed_phraseHits_iff`).
-/

namespace Concordance.Index

variable {α : Type} {index : Index α} {n : DocId} {t : String} {ts : List String}

/-- The document `n` records the terms one after the other from `place` on. -/
def StartsAt (index : Index α) (n : DocId) (ts : List String) (place : Nat) : Prop :=
  ∀ k t, ts[k]? = some t → (place + k, t) ∈ index.recorded n

/-- The positions of an index stay at least `room` below `2 ^ 32`. -/
def HasRoom (index : Index α) (room : Nat) : Prop :=
  ∀ entry ∈ index.terms.entries, ∀ p ∈ entry.2, ∀ position ∈ p.positions,
    position.toNat + room ≤ 2 ^ 32

-- the lists are gone through: there are too many numbers of 32 bits to try them all
instance (index : Index α) (room : Nat) : Decidable (index.HasRoom room) :=
  decidable_of_iff
    (index.terms.entries.all fun entry => entry.2.all fun p => p.positions.all fun position =>
      decide (position.toNat + room ≤ 2 ^ 32)) (by simp only [HasRoom, List.all_eq_true, decide_eq_true_eq])

/-- A phrase starts where its first term stands and the others start behind it. -/
theorem startsAt_cons {place : Nat} :
    index.StartsAt n (t :: ts) place ↔
      (place, t) ∈ index.recorded n ∧ index.StartsAt n ts (place + 1) := by
  constructor
  · intro h
    refine ⟨h 0 t rfl, fun k s hs => ?_⟩
    have hnext := h (k + 1) s hs
    rwa [Nat.add_comm k 1, ← Nat.add_assoc] at hnext
  · rintro ⟨hfirst, hrest⟩ k s hs
    cases k with
    | zero =>
        rw [List.getElem?_cons_zero, Option.some.injEq] at hs
        exact hs ▸ hfirst
    | succ k =>
        have hnext := hrest k s hs
        rwa [Nat.add_assoc, Nat.add_comm 1 k] at hnext

/-! ### The positions of a term -/

/-- What an index records of a document stands in the postings of the terms. -/
theorem mem_recorded_iff {place : Nat} :
    (place, t) ∈ index.recorded n ↔
      ∃ p ∈ index.postings t, p.document = n ∧ ∃ position ∈ p.positions, position.toNat = place := by
  rw [recorded, List.mem_flatMap]
  constructor
  · rintro ⟨⟨s, p⟩, hp, hmem⟩
    obtain ⟨position, hposition, heq⟩ := List.mem_map.1 hmem
    cases heq
    obtain ⟨hp, hdocument⟩ := mem_postingsOf_iff.1 hp
    exact ⟨p, hp, hdocument, position, hposition, rfl⟩
  · rintro ⟨p, hp, hdocument, position, hposition, rfl⟩
    exact ⟨(t, p), mem_postingsOf_iff.2 ⟨hp, hdocument⟩, List.mem_map.2 ⟨position, hposition, rfl⟩⟩

theorem mem_entries_of_mem_postings {p : Posting} (h : p ∈ index.postings t) :
    (t, index.postings t) ∈ index.terms.entries := by
  rw [SortedMap.mem_entries_iff]
  rw [postings] at h ⊢
  cases hfind : index.terms.find? t with
  | none =>
      rw [hfind] at h
      cases h
  | some postings => rfl

theorem WellFormed.pairwise_postings (h : index.WellFormed) (t : String) :
    ((index.postings t).map Posting.document).Pairwise (· < ·) := by
  cases hpostings : index.postings t with
  | nil => exact List.Pairwise.nil
  | cons p rest =>
      have hp : p ∈ index.postings t := hpostings ▸ List.mem_cons_self
      rw [← hpostings]
      exact (h.orderly _ (mem_entries_of_mem_postings hp)).ascending

theorem WellFormed.consistent (h : index.WellFormed) {p : Posting} (hp : p ∈ index.postings t) :
    Consistent p :=
  (h.orderly _ (mem_entries_of_mem_postings hp)).consistent p hp

/-- The positions that a list of postings has for a document are those that its posting holds. -/
theorem WellFormed.mem_positionsIn_iff (h : index.WellFormed) {position : UInt32} :
    position ∈ positionsIn (index.postings t) n ↔ (position.toNat, t) ∈ index.recorded n := by
  have hfind (p : Posting) := @findByKey?_eq_some_iff _ Posting.document n _ p
    (List.pairwise_map.1 (h.pairwise_postings t))
  rw [mem_recorded_iff, positionsIn]
  constructor
  · intro hmem
    split at hmem
    · next p hp =>
        obtain ⟨hp, hdocument⟩ := (hfind p).1 hp
        exact ⟨p, hp, hdocument, position, hmem, rfl⟩
    · cases hmem
  · rintro ⟨p, hp, hdocument, other, hother, heq⟩
    rw [(hfind p).2 ⟨hp, hdocument⟩]
    exact UInt32.toNat_inj.1 heq ▸ hother

/-- They ascend, and there are fewer than `2 ^ 32` of them. -/
theorem WellFormed.positionsIn_bounds (h : index.WellFormed) (t : String) (n : DocId) :
    (positionsIn (index.postings t) n).Pairwise (· < ·) ∧
      (positionsIn (index.postings t) n).length < 2 ^ 32 := by
  rw [positionsIn]
  split
  · next p hp =>
      have hmem := ((findByKey?_eq_some_iff (List.pairwise_map.1 (h.pairwise_postings t))).1 hp).1
      have hconsistent := h.consistent hmem
      exact ⟨hconsistent.ascending, hconsistent.frequency_eq ▸ p.frequency.toNat_lt⟩
  · exact ⟨List.Pairwise.nil, by simp⟩

/-! ### Counting the starts -/

theorem toNat_add_one {start : UInt32} (hnext : start.toNat + 1 < 2 ^ 32) :
    (start + 1).toNat = start.toNat + 1 := by
  rw [UInt32.toNat_add, UInt32.toNat_one]
  omega

theorem eq_lastPosition_iff {position : UInt32} : position = lastPosition ↔ ¬position.toNat + 1 < 2 ^ 32 := by
  have hlt := position.toNat_lt
  have hlast : lastPosition.toNat = 2 ^ 32 - 1 := rfl
  rw [← UInt32.toNat_inj, hlast]
  omega

/-- The position behind `start` is looked for where the document records it, unless there is none. -/
theorem WellFormed.isSome_findByKey?_iff (h : index.WellFormed) {start : UInt32}
    (hnext : start.toNat + 1 < 2 ^ 32) :
    (findByKey? id (start + 1) (positionsIn (index.postings t) n)).isSome = true ↔
      (start.toNat + 1, t) ∈ index.recorded n := by
  rw [Option.isSome_iff_exists, ← toNat_add_one hnext, ← h.mem_positionsIn_iff]
  have hfind (position : UInt32) := @findByKey?_eq_some_iff _ id (start + 1) _ position
    (h.positionsIn_bounds t n).1
  simp only [hfind]
  constructor
  · rintro ⟨position, hmem, heq⟩
    exact heq ▸ hmem
  · intro hmem
    exact ⟨start + 1, hmem, rfl⟩

/-- Counting on from a start stays below `2 ^ 32`, so no position is met by wrapping around. -/
theorem WellFormed.continues_iff (h : index.WellFormed) {start : UInt32}
    (hroom : start.toNat + ts.length < 2 ^ 32) :
    (continues start ((ts.map index.postings).map (positionsIn · n))).value = true ↔
      index.StartsAt n ts (start.toNat + 1) := by
  induction ts generalizing start with
  | nil => simp [StartsAt]
  | cons t ts ih =>
      rw [List.length_cons] at hroom
      have hnext : start.toNat + 1 < 2 ^ 32 := by omega
      have hsucc := toNat_add_one hnext
      rw [List.map_cons, List.map_cons, value_continues_cons, Bool.and_eq_true, h.isSome_findByKey?_iff hnext,
        ih (by omega), hsucc, startsAt_cons]

theorem WellFormed.toNat_add_length_lt (h : index.WellFormed)
    (hroom : index.HasRoom (ts.length + 1)) {start : UInt32}
    (hstart : start ∈ positionsIn (index.postings t) n) : start.toNat + ts.length < 2 ^ 32 := by
  obtain ⟨p, hp, -, position, hposition, heq⟩ := mem_recorded_iff.1 (h.mem_positionsIn_iff.1 hstart)
  have := hroom _ (mem_entries_of_mem_postings hp) p hp position hposition
  omega

/-- The places from which the terms stand, as a list: those positions of the first term that the other
terms continue. -/
theorem WellFormed.startsAt_iff (h : index.WellFormed) (hroom : index.HasRoom (ts.length + 1))
    {place : Nat} :
    index.StartsAt n (t :: ts) place ↔
      place ∈ ((positionsIn (index.postings t) n).filter fun start =>
        (continues start ((ts.map index.postings).map (positionsIn · n))).value).map UInt32.toNat := by
  rw [startsAt_cons, List.mem_map]
  constructor
  · rintro ⟨hfirst, hrest⟩
    obtain ⟨p, hp, hdocument, start, hposition, rfl⟩ := mem_recorded_iff.1 hfirst
    have hstart := h.mem_positionsIn_iff.2 hfirst
    have hcontinues := (h.continues_iff (h.toNat_add_length_lt hroom hstart)).2 hrest
    exact ⟨start, List.mem_filter.2 ⟨hstart, hcontinues⟩, rfl⟩
  · rintro ⟨start, hmem, rfl⟩
    obtain ⟨hstart, hcontinues⟩ := List.mem_filter.1 hmem
    exact ⟨h.mem_positionsIn_iff.1 hstart,
      (h.continues_iff (h.toNat_add_length_lt hroom hstart)).1 hcontinues⟩

/-- As many starts are counted as there are places from which the terms stand. -/
theorem WellFormed.encard_startsAt (h : index.WellFormed) (hroom : index.HasRoom (ts.length + 1))
    (n : DocId) (t : String) :
    {place | index.StartsAt n (t :: ts) place}.encard =
      (countStarts (((t :: ts).map index.postings).map (positionsIn · n))).value := by
  have hnodup : (((positionsIn (index.postings t) n).filter fun start =>
      (continues start ((ts.map index.postings).map (positionsIn · n))).value).map UInt32.toNat).Nodup := by
    refine List.Nodup.map (fun a b heq => UInt32.toNat_inj.1 heq) (List.Nodup.filter _ ?_)
    refine (h.positionsIn_bounds t n).1.imp ?_
    rintro a b hlt rfl
    exact UInt32.lt_irrefl a hlt
  have hset : {place | index.StartsAt n (t :: ts) place} =
      (((positionsIn (index.postings t) n).filter fun start =>
        (continues start ((ts.map index.postings).map (positionsIn · n))).value).map
          UInt32.toNat).toFinset := by
    ext place
    rw [List.coe_toFinset]
    exact h.startsAt_iff hroom
  rw [hset, Set.encard_coe_eq_coe_finsetCard, List.toFinset_card_of_nodup hnodup, List.length_map,
    ← List.countP_eq_length_filter, List.map_cons, List.map_cons, value_countStarts_cons]

/-- There is a place from which the terms stand if at least one start is counted. -/
theorem WellFormed.exists_startsAt_iff (h : index.WellFormed) (hroom : index.HasRoom (ts.length + 1))
    (n : DocId) (t : String) :
    (∃ place, index.StartsAt n (t :: ts) place) ↔
      (countStarts (((t :: ts).map index.postings).map (positionsIn · n))).value ≠ 0 := by
  have hset : (∃ place, index.StartsAt n (t :: ts) place) ↔
      {place | index.StartsAt n (t :: ts) place}.Nonempty := Iff.rfl
  rw [hset, ← Set.encard_pos, h.encard_startsAt hroom n t]
  exact Nat.cast_pos.trans Nat.pos_iff_ne_zero

/-- The count fits in 32 bits. -/
theorem WellFormed.countStarts_lt (h : index.WellFormed) (n : DocId) (t : String) (ts : List String) :
    (countStarts (((t :: ts).map index.postings).map (positionsIn · n))).value < 2 ^ 32 := by
  rw [List.map_cons, List.map_cons, value_countStarts_cons]
  exact Nat.lt_of_le_of_lt List.countP_le_length (h.positionsIn_bounds t n).2

/-! ### The hits -/

/-- A document in which the terms stand has postings of all of them. -/
theorem StartsAt.mem_document {place : Nat} (h : index.StartsAt n ts place) (ht : t ∈ ts) :
    n ∈ (index.postings t).map Posting.document := by
  obtain ⟨k, hk⟩ := List.mem_iff_getElem?.1 ht
  obtain ⟨p, hp, hdocument, -⟩ := mem_recorded_iff.1 (h k t hk)
  exact List.mem_map.2 ⟨p, hp, hdocument⟩

theorem WellFormed.commonDocuments_eq (h : index.WellFormed) (t : String) (ts : List String) :
    commonDocuments ((t :: ts).map index.postings) =
      ((index.postings t).map Posting.document).filter fun n =>
        (ts.map index.postings).all fun postings => (postings.map Posting.document).contains n := by
  rw [List.map_cons, commonDocuments_cons (h.pairwise_postings t)]
  intro postings hpostings
  obtain ⟨s, -, rfl⟩ := List.mem_map.1 hpostings
  exact h.pairwise_postings s

/-- The common documents are those with postings of all terms. -/
theorem WellFormed.mem_commonDocuments_iff (h : index.WellFormed) :
    n ∈ commonDocuments ((t :: ts).map index.postings) ↔
      ∀ s ∈ t :: ts, n ∈ (index.postings s).map Posting.document := by
  rw [h.commonDocuments_eq, List.mem_filter, List.all_map, List.all_eq_true, List.forall_mem_cons]
  simp only [Function.comp_apply, List.contains_iff_mem]

theorem WellFormed.pairwise_commonDocuments (h : index.WellFormed) (t : String) (ts : List String) :
    (commonDocuments ((t :: ts).map index.postings)).Pairwise (· < ·) := by
  rw [h.commonDocuments_eq]
  exact (h.pairwise_postings t).filter _

/-! ### Going beyond the last position -/

/-- From `place` on, the document records the first terms of a phrase, but not all of them, up to the last
position. -/
def RunsOut (index : Index α) (n : DocId) (ts : List String) (place : Nat) : Prop :=
  ∃ k, 0 < k ∧ k < ts.length ∧ place + k = 2 ^ 32 ∧ index.StartsAt n (ts.take k) place

/-- A document with postings of all terms of a phrase records its first terms up to the last position. -/
def Overruns (index : Index α) (ts : List String) : Prop :=
  ∃ n, (∀ t ∈ ts, n ∈ (index.postings t).map Posting.document) ∧ ∃ place, index.RunsOut n ts place

/-- From `place` on, the document records terms of a phrase, perhaps none, up to the last position, and the
phrase goes on behind it. -/
def BreaksOff (index : Index α) (n : DocId) (ts : List String) (place : Nat) : Prop :=
  ∃ k < ts.length, place + k = 2 ^ 32 ∧ index.StartsAt n (ts.take k) place

/-- A phrase breaks off at the last position, or one place further on. -/
theorem breaksOff_cons {place : Nat} :
    index.BreaksOff n (t :: ts) place ↔
      place = 2 ^ 32 ∨ (place, t) ∈ index.recorded n ∧ index.BreaksOff n ts (place + 1) := by
  constructor
  · rintro ⟨k, hk, hlast, hstarts⟩
    cases k with
    | zero => exact .inl hlast
    | succ k =>
        obtain ⟨hfirst, hrest⟩ := startsAt_cons.1 hstarts
        exact .inr ⟨hfirst, k, Nat.lt_of_succ_lt_succ hk, by omega, hrest⟩
  · rintro (hlast | ⟨hfirst, k, hk, hlast, hrest⟩)
    · exact ⟨0, Nat.succ_pos _, hlast, by simp [StartsAt]⟩
    · exact ⟨k + 1, Nat.succ_lt_succ hk, by omega, startsAt_cons.2 ⟨hfirst, hrest⟩⟩

theorem runsOut_cons {place : Nat} :
    index.RunsOut n (t :: ts) place ↔
      (place, t) ∈ index.recorded n ∧ index.BreaksOff n ts (place + 1) := by
  constructor
  · rintro ⟨k, hpos, hk, hlast, hstarts⟩
    obtain ⟨k, rfl⟩ := Nat.exists_eq_succ_of_ne_zero (Nat.ne_of_gt hpos)
    obtain ⟨hfirst, hrest⟩ := startsAt_cons.1 hstarts
    exact ⟨hfirst, k, Nat.lt_of_succ_lt_succ hk, by omega, hrest⟩
  · rintro ⟨hfirst, k, hk, hlast, hrest⟩
    exact ⟨k + 1, Nat.succ_pos k, Nat.succ_lt_succ hk, by omega, startsAt_cons.2 ⟨hfirst, hrest⟩⟩

/-- The comparison overflows where the terms before reach the last position. -/
theorem WellFormed.overflowed_continues_iff (h : index.WellFormed) (start : UInt32) :
    (continues start ((ts.map index.postings).map (positionsIn · n))).overflowed = true ↔
      index.BreaksOff n ts (start.toNat + 1) := by
  induction ts generalizing start with
  | nil => simp [continues, BreaksOff]
  | cons t ts ih =>
      rw [List.map_cons, List.map_cons, overflowed_continues_cons, breaksOff_cons, Bool.or_eq_true,
        Bool.and_eq_true, beq_iff_eq, eq_lastPosition_iff]
      by_cases hnext : start.toNat + 1 < 2 ^ 32
      · rw [or_iff_right (not_not_intro hnext), or_iff_right (Nat.ne_of_lt hnext),
          h.isSome_findByKey?_iff hnext, ih, toNat_add_one hnext]
      · have hlast : start.toNat + 1 = 2 ^ 32 := Nat.le_antisymm start.toNat_lt (Nat.not_lt.1 hnext)
        exact iff_of_true (.inl hnext) (.inl hlast)

/-- What runs out begins at a position of the first term. -/
theorem WellFormed.exists_runsOut_iff (h : index.WellFormed) :
    (∃ place, index.RunsOut n (t :: ts) place) ↔
      ∃ start ∈ positionsIn (index.postings t) n, index.BreaksOff n ts (start.toNat + 1) := by
  simp only [runsOut_cons]
  constructor
  · rintro ⟨place, hfirst, hrest⟩
    obtain ⟨p, hp, hdocument, start, hstart, rfl⟩ := mem_recorded_iff.1 hfirst
    exact ⟨start, h.mem_positionsIn_iff.2 hfirst, hrest⟩
  · rintro ⟨start, hstart, hrest⟩
    exact ⟨start.toNat, h.mem_positionsIn_iff.1 hstart, hrest⟩

theorem WellFormed.overflowed_countStarts_iff (h : index.WellFormed) (n : DocId) (t : String)
    (ts : List String) :
    (countStarts (((t :: ts).map index.postings).map (positionsIn · n))).overflowed = true ↔
      ∃ place, index.RunsOut n (t :: ts) place := by
  rw [List.map_cons, List.map_cons, overflowed_countStarts_cons, List.any_eq_true, h.exists_runsOut_iff]
  simp only [h.overflowed_continues_iff]

/-- The search for a phrase overflows if a document runs out of positions. -/
theorem WellFormed.overflowed_phraseHits_iff (h : index.WellFormed) (ts : List String) :
    (index.phraseHits ts).overflowed = true ↔ index.Overruns ts := by
  rw [overflowed_phraseHits, Bool.and_eq_true, Bool.not_eq_true', ← Bool.not_eq_true, List.any_eq_true,
    List.any_eq_true, Overruns]
  cases ts with
  | nil => simp [commonDocuments, RunsOut]
  | cons t ts =>
      simp only [h.overflowed_countStarts_iff, h.mem_commonDocuments_iff]
      refine and_iff_right_of_imp ?_
      -- no document has postings of a term without any
      rintro ⟨n, hall, -⟩ ⟨postings, hpostings, hnil⟩
      obtain ⟨s, hs, rfl⟩ := List.mem_map.1 hpostings
      have hmem := hall s hs
      rw [List.isEmpty_iff.1 hnil] at hmem
      cases hmem

/-- No phrase overruns if no position is the last one. -/
theorem not_overruns_of_hasRoom (h : index.HasRoom 2) (ts : List String) : ¬index.Overruns ts := by
  rintro ⟨n, -, place, k, hpos, hk, hlast, hstarts⟩
  have hbefore : k - 1 < (ts.take k).length := by
    rw [List.length_take]
    omega
  have hmem := hstarts (k - 1) _ (List.getElem?_eq_getElem hbefore)
  obtain ⟨p, hp, -, position, hposition, heq⟩ := mem_recorded_iff.1 hmem
  have hroom := h _ (mem_entries_of_mem_postings hp) p hp position hposition
  omega

/-- Room for a phrase is room for its search. -/
theorem WellFormed.not_overflowed (h : index.WellFormed) (hroom : index.HasRoom ts.length) :
    (index.phraseHits ts).overflowed = false := by
  rw [← Bool.not_eq_true, h.overflowed_phraseHits_iff]
  intro hoverruns
  have hlength : 2 ≤ ts.length := by
    obtain ⟨-, -, -, k, hpos, hk, -⟩ := hoverruns
    omega
  refine not_overruns_of_hasRoom (fun entry hentry p hp position hposition => ?_) ts hoverruns
  have := hroom entry hentry p hp position hposition
  omega

/-! ### Finding phrases -/

/-- What the search for a phrase gives in an index that passes the check, if its positions leave room for
as many more as the phrase has terms: in strictly ascending order the documents in which the terms stand
at consecutive positions, each with the number of places from which they do. No sum goes beyond 32 bits. -/
theorem phraseHits_iff (hchecked : index.fault? = none) (hne : ts ≠ [])
    (hroom : index.HasRoom ts.length) :
    (index.phraseHits ts).overflowed = false ∧
      (index.phraseHits ts).value.Pairwise (fun a b => a.1 < b.1) ∧
      ∀ n count, (n, count) ∈ (index.phraseHits ts).value ↔
        (∃ place, index.StartsAt n ts place) ∧
          {place | index.StartsAt n ts place}.encard = count.toNat := by
  have h := fault?_eq_none_iff.1 hchecked
  refine ⟨h.not_overflowed hroom, ?_⟩
  obtain ⟨t, ts, rfl⟩ := List.exists_cons_of_ne_nil hne
  rw [value_phraseHits]
  dsimp only
  split
  · next hempty =>
      -- the search gives up at a term without postings, and such a term stands nowhere
      obtain ⟨postings, hpostings, hnil⟩ := List.any_eq_true.1 hempty
      obtain ⟨s, hs, rfl⟩ := List.mem_map.1 hpostings
      refine ⟨List.Pairwise.nil, fun n count => iff_of_false (by simp) ?_⟩
      rintro ⟨⟨place, hstarts⟩, -⟩
      have hmem := hstarts.mem_document hs
      rw [List.isEmpty_iff.1 hnil] at hmem
      cases hmem
  · constructor
    · refine List.Pairwise.filterMap _ ?_ (h.pairwise_commonDocuments t ts)
      intro a b hlt x hx y hy
      rw [Option.ite_none_left_eq_some, Option.some.injEq] at hx hy
      rw [← hx.2, ← hy.2]
      exact hlt
    · intro n count
      have hcount := h.countStarts_lt n t ts
      have hcard := h.encard_startsAt hroom n t
      have hsome := h.exists_startsAt_iff hroom n t
      rw [hcard, hsome, Nat.cast_inj, List.mem_filterMap]
      -- a hit is a common document whose count is not zero
      constructor
      · rintro ⟨m, hm, hhit⟩
        rw [Option.ite_none_left_eq_some, Option.some.injEq, Prod.mk.injEq] at hhit
        obtain ⟨hne, rfl, rfl⟩ := hhit
        refine ⟨fun hzero => hne ?_, (UInt32.toNat_ofNat_of_lt' hcount).symm⟩
        rw [hzero]
        rfl
      · rintro ⟨hne, heq⟩
        obtain ⟨place, hstarts⟩ := hsome.2 hne
        refine ⟨n, h.mem_commonDocuments_iff.2 fun s hs => hstarts.mem_document hs, ?_⟩
        rw [heq, UInt32.ofNat_toNat, if_neg]
        rintro rfl
        exact hne heq

/-- An index that no store has: one term stands three times in a row, and again at the last position that
leaves room for two terms. -/
def refrain : Index Unit where
  terms := .ofList
    [("da", [⟨1, 1, 0, [6]⟩]), ("la", [⟨0, 3, 1, [4, 5, 6]⟩, ⟨1, 2, 0, [7, 4294967294]⟩])]
  lengths := [3, 3]
  documentCount := 2
  meanLength := ()
  totalLength := 6

theorem phraseHits_iff_sample :
    refrain.fault? = none ∧ ["la", "la"] ≠ [] ∧ refrain.HasRoom ["la", "la"].length ∧
      (refrain.phraseHits ["la", "la"]).overflowed = false ∧
      (refrain.phraseHits ["la", "la"]).value.Pairwise (fun a b => a.1 < b.1) ∧
      ∀ n count, (n, count) ∈ (refrain.phraseHits ["la", "la"]).value ↔
        (∃ place, refrain.StartsAt n ["la", "la"] place) ∧
          {place | refrain.StartsAt n ["la", "la"] place}.encard = count.toNat :=
  ⟨by decide, by decide, by decide, phraseHits_iff (by decide) (by decide) (by decide)⟩

/-- The two starts in the first document overlap. -/
example : refrain.phraseHits ["la", "la"] = ⟨[(0, 2)], false⟩ := by cbv

end Concordance.Index
