import Concordance.Ranking

/-!
# Gathering what clauses add

The tallies of documents are kept in the order of their numbers. Working in what one clause adds to a
row of documents, in the same order, changes the tally of each document that the clause hits and leaves
the others as they are. Where nothing is known of the order of what is worked in, the tallies stay in
order all the same (`pairwise_alterTally`).
-/

namespace Concordance.Ranking

variable {α β φ : Type} {n : DocId} {change : Option (Tally α) → Tally α}

theorem alterTally_of_lt {tallies : List (DocId × Tally α)} (h : ∀ entry ∈ tallies, n < entry.1) :
    alterTally n change tallies = (n, change none) :: tallies := by
  cases tallies with
  | nil => rfl
  | cons entry rest => rw [alterTally, if_pos (h entry List.mem_cons_self)]

theorem alterTally_cons_self (t : Tally α) (rest : List (DocId × Tally α)) :
    alterTally n change ((n, t) :: rest) = (n, change (some t)) :: rest := by
  rw [alterTally, if_neg (UInt32.lt_irrefl n), if_pos rfl]

theorem alterTally_cons_of_gt {m : DocId} (h : m < n) (t : Tally α)
    (rest : List (DocId × Tally α)) :
    alterTally n change ((m, t) :: rest) = (m, t) :: alterTally n change rest := by
  have hnlt : ¬ n < m := fun hlt => UInt32.lt_irrefl n (UInt32.lt_trans hlt h)
  have hne : n ≠ m := by
    rintro rfl
    exact UInt32.lt_irrefl n h
  rw [alterTally, if_neg hnlt, if_neg hne]

/-- A tally is one of those that were there, or the changed one. -/
theorem mem_alterTally {tallies : List (DocId × Tally α)} {entry : DocId × Tally α}
    (h : entry ∈ alterTally n change tallies) :
    entry ∈ tallies ∨
      entry = (n, change none) ∨ ∃ t, (n, t) ∈ tallies ∧ entry = (n, change (some t)) := by
  induction tallies with
  | nil => exact .inr (.inl (List.mem_singleton.1 h))
  | cons head rest ih =>
      obtain ⟨m, t⟩ := head
      rw [alterTally] at h
      split at h
      · rcases List.mem_cons.1 h with rfl | h
        · exact .inr (.inl rfl)
        · exact .inl h
      · split at h
        · -- the tally that is changed in its place
          next heq =>
            subst heq
            rcases List.mem_cons.1 h with rfl | h
            · exact .inr (.inr ⟨t, List.mem_cons_self, rfl⟩)
            · exact .inl (List.mem_cons_of_mem _ h)
        · rcases List.mem_cons.1 h with rfl | h
          · exact .inl List.mem_cons_self
          · rcases ih h with hold | hnew | ⟨old, hold, heq⟩
            · exact .inl (List.mem_cons_of_mem _ hold)
            · exact .inr (.inl hnew)
            · exact .inr (.inr ⟨old, List.mem_cons_of_mem _ hold, heq⟩)

/-- One document is added to those with a tally. -/
theorem mem_map_fst_alterTally {m : DocId} {tallies : List (DocId × Tally α)} :
    m ∈ (alterTally n change tallies).map Prod.fst ↔ m ∈ tallies.map Prod.fst ∨ m = n := by
  induction tallies with
  | nil => simp [alterTally]
  | cons head rest ih =>
      obtain ⟨k, t⟩ := head
      rw [alterTally]
      split
      · rw [List.map_cons, List.mem_cons, or_comm]
      · split
        · next heq =>
            rw [List.map_cons, List.map_cons, List.mem_cons, List.mem_cons, heq]
            exact (or_iff_left_of_imp Or.inl).symm
        · rw [List.map_cons, List.mem_cons, ih, List.map_cons, List.mem_cons, or_assoc]

/-- Tallies stay in the order of their documents. -/
theorem pairwise_alterTally (n : DocId) (change : Option (Tally α) → Tally α)
    {tallies : List (DocId × Tally α)} (h : tallies.Pairwise fun a b => a.1 < b.1) :
    (alterTally n change tallies).Pairwise fun a b => a.1 < b.1 := by
  induction tallies with
  | nil => exact List.pairwise_singleton _ _
  | cons head rest ih =>
      obtain ⟨m, t⟩ := head
      obtain ⟨hfirst, hrest⟩ := List.pairwise_cons.1 h
      rw [alterTally]
      split
      · next hlt =>
          refine List.pairwise_cons.2 ⟨?_, h⟩
          intro entry hentry
          rcases List.mem_cons.1 hentry with rfl | hentry
          · exact hlt
          · exact UInt32.lt_trans hlt (hfirst entry hentry)
      · split
        · next heq =>
            subst heq
            exact List.pairwise_cons.2 ⟨hfirst, hrest⟩
        · next hge hne =>
            have hlt : m < n := UInt32.lt_of_le_of_ne (UInt32.not_lt.1 hge) (Ne.symm hne)
            refine List.pairwise_cons.2 ⟨?_, ih hrest⟩
            intro entry hentry
            rcases mem_alterTally hentry with hold | rfl | ⟨old, -, rfl⟩
            · exact hfirst entry hold
            · exact hlt
            · exact hlt

/-- What is found behind a document leaves its tally alone. -/
theorem foldl_alterTally_cons {m : DocId} {found : List (DocId × φ)}
    (change : DocId → φ → Option (Tally α) → Tally α) (h : ∀ item ∈ found, m < item.1) (t : Tally α)
    (rest : List (DocId × Tally α)) :
    found.foldl (fun tallies item => alterTally item.1 (change item.1 item.2) tallies)
        ((m, t) :: rest) =
      (m, t) :: found.foldl
        (fun tallies item => alterTally item.1 (change item.1 item.2) tallies) rest := by
  induction found generalizing rest with
  | nil => rfl
  | cons item found ih =>
      rw [List.foldl_cons, List.foldl_cons, alterTally_cons_of_gt (h item List.mem_cons_self),
        ih fun item' hmem => h item' (List.mem_cons_of_mem _ hmem)]

/-- The documents that `value?` is known of, with what is known. -/
def known (value? : DocId × β → Option φ) (documents : List (DocId × β)) : List (DocId × φ) :=
  documents.filterMap fun x => (value? x).map fun value => (x.1, value)

theorem known_cons (value? : DocId × β → Option φ) (x : DocId × β) (rest : List (DocId × β)) :
    known value? (x :: rest) =
      ((value? x).map fun value => (x.1, value)).toList ++ known value? rest := by
  rw [known, List.filterMap_cons]
  cases value? x with
  | none => rfl
  | some value => rfl

/-- What is known of later documents has later numbers. -/
theorem lt_of_mem_known {value? : DocId × β → Option φ} {x : DocId × β} {rest : List (DocId × β)}
    (h : (x :: rest).Pairwise fun a b => a.1 < b.1) :
    ∀ item ∈ known value? rest, x.1 < item.1 := by
  intro item hmem
  obtain ⟨y, hy, hvalue⟩ := List.mem_filterMap.1 hmem
  obtain ⟨value, -, rfl⟩ := Option.map_eq_some_iff.1 hvalue
  exact (List.pairwise_cons.1 h).1 y hy

def tallied (change : DocId → φ → Option (Tally α) → Tally α) (found? : DocId × β → Option φ)
    (tally? : DocId × β → Option (Tally α)) (x : DocId × β) : Option (Tally α) :=
  match found? x with
  | none => tally? x
  | some value => some (change x.1 value (tally? x))

/-- Working in what is found of documents changes their tallies one by one. -/
theorem foldl_alterTally {documents : List (DocId × β)}
    (h : documents.Pairwise fun a b => a.1 < b.1)
    (change : DocId → φ → Option (Tally α) → Tally α) (found? : DocId × β → Option φ)
    (tally? : DocId × β → Option (Tally α)) :
    (known found? documents).foldl
        (fun tallies item => alterTally item.1 (change item.1 item.2) tallies)
        (known tally? documents) =
      known (tallied change found? tally?) documents := by
  induction documents with
  | nil => rfl
  | cons x rest ih =>
      have ih := ih (List.pairwise_cons.1 h).2
      rw [known_cons found?, known_cons tally?, known_cons (tallied change found? tally?), ← ih,
        tallied]
      cases found? x with
      | none =>
          -- what is found lies behind the first document
          cases tally? x with
          | none => rfl
          | some t => exact foldl_alterTally_cons change (lt_of_mem_known h) t _
      | some value =>
          rw [Option.map_some, Option.toList_some, List.singleton_append, List.foldl_cons]
          cases tally? x with
          | none =>
              rw [Option.map_none, Option.toList_none, List.nil_append,
                alterTally_of_lt (lt_of_mem_known h)]
              exact foldl_alterTally_cons change (lt_of_mem_known h) _ _
          | some t =>
              rw [Option.map_some, Option.toList_some, List.singleton_append,
                alterTally_cons_self]
              exact foldl_alterTally_cons change (lt_of_mem_known h) _ _

end Concordance.Ranking
