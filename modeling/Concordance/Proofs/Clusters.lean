import Concordance.Snippet
import Mathlib.Data.Finset.Card
import Mathlib.Data.List.Infix

/-!
# The cluster of the wanted terms

The search tries a cluster at each hit from which a term is met for the first time. It may stop early, once
as many terms are met as are wanted, because nothing is left to be met. Of all clusters that are tried the
first one that no other beats is taken, and this is the leftmost shortest window that holds every wanted
term that there is.
-/

namespace Concordance.Snippet

variable {spans : List Span} {terms : List String}

/-! ### What is looked for -/

/-- The window holds the term `t`. -/
def Window.Holds (w : Window) (spans : List Span) (t : String) : Prop :=
  ∃ place span, w.first ≤ place ∧ place ≤ w.last ∧ spans[place]? = some span ∧ span.term = t

def Window.HoldsAll (w : Window) (spans : List Span) (terms : List String) : Prop :=
  ∀ t ∈ terms, t ∈ spans.map Span.term → w.Holds spans t

/-- The window is the leftmost of the shortest ones that hold each of the terms that there is. -/
structure Window.IsLeast (w : Window) (spans : List Span) (terms : List String) : Prop where
  first_le_last : w.first ≤ w.last
  last_lt : w.last < spans.length
  holdsAll : w.HoldsAll spans terms
  shortest : ∀ v : Window, v.HoldsAll spans terms → w.last - w.first ≤ v.last - v.first
  leftmost : ∀ v : Window, v.HoldsAll spans terms → v.last - v.first = w.last - w.first →
    w.first ≤ v.first

/-! ### Hits -/

/-- A hit is the place of a wanted term, with the place of this term among the wanted ones. -/
theorem mem_hits_iff {place term : Nat} :
    (place, term) ∈ hits spans terms ↔
      ∃ span, spans[place]? = some span ∧ terms.findIdx? (· == span.term) = some term := by
  rw [hits, List.mem_filterMap]
  constructor
  · rintro ⟨⟨span, i⟩, hmem, heq⟩
    obtain ⟨k, hk, hpair⟩ := Option.map_eq_some_iff.1 heq
    cases hpair
    exact ⟨span, List.mem_zipIdx_iff_getElem?.1 hmem, hk⟩
  · rintro ⟨span, hspan, hk⟩
    exact ⟨(span, place), List.mem_zipIdx_iff_getElem?.2 hspan,
      Option.map_eq_some_iff.2 ⟨term, hk, rfl⟩⟩

/-- Hits come in the order of their places, each place once. -/
theorem pairwise_hits (spans : List Span) (terms : List String) :
    (hits spans terms).Pairwise fun a b => a.1 < b.1 := by
  have hplaces : spans.zipIdx.Pairwise fun a b => a.2 < b.2 := by
    rw [← List.pairwise_map (f := Prod.snd) (R := (· < ·)), List.zipIdx_map_snd]
    exact List.pairwise_lt_range'
  refine List.Pairwise.filterMap _ ?_ hplaces
  intro a b hlt x hx y hy
  obtain ⟨j, -, rfl⟩ := Option.map_eq_some_iff.1 hx
  obtain ⟨k, -, rfl⟩ := Option.map_eq_some_iff.1 hy
  exact hlt

theorem findIdx?_eq_some {t : String} {k : Nat} (h : terms.findIdx? (· == t) = some k) :
    terms[k]? = some t := by
  obtain ⟨hlt, heq, -⟩ := List.findIdx?_eq_some_iff_getElem.1 h
  rw [List.getElem?_eq_getElem hlt, Option.some.injEq]
  exact beq_iff_eq.1 heq

theorem exists_findIdx? {t : String} (h : t ∈ terms) :
    ∃ k, terms.findIdx? (· == t) = some k := by
  rw [← Option.isSome_iff_exists, List.findIdx?_isSome, List.any_eq_true]
  exact ⟨t, h, beq_self_eq_true t⟩

theorem lt_of_mem_hits {hit : Nat × Nat} (h : hit ∈ hits spans terms) : hit.2 < terms.length := by
  obtain ⟨span, -, hk⟩ := mem_hits_iff.1 h
  exact (List.getElem?_eq_some_iff.1 (findIdx?_eq_some hk)).1

/-- Nothing is hit where no wanted term stands. -/
theorem hits_eq_nil_iff : hits spans terms = [] ↔ ∀ span ∈ spans, span.term ∉ terms := by
  rw [List.eq_nil_iff_forall_not_mem]
  constructor
  · intro h span hspan hmem
    obtain ⟨place, hplace⟩ := List.mem_iff_getElem?.1 hspan
    obtain ⟨k, hk⟩ := exists_findIdx? hmem
    exact h (place, k) (mem_hits_iff.2 ⟨span, hplace, hk⟩)
  · rintro h ⟨place, k⟩ hmem
    obtain ⟨span, hplace, hk⟩ := mem_hits_iff.1 hmem
    exact h span (List.mem_of_getElem? hplace) (List.mem_of_getElem? (findIdx?_eq_some hk))

/-- A window holds all terms if it has a hit of each term of which there is a hit. -/
theorem holdsAll_iff {w : Window} :
    w.HoldsAll spans terms ↔ ∀ hit ∈ hits spans terms, ∃ other ∈ hits spans terms,
      other.2 = hit.2 ∧ w.first ≤ other.1 ∧ other.1 ≤ w.last := by
  constructor
  · rintro h ⟨place, k⟩ hhit
    obtain ⟨span, hplace, hk⟩ := mem_hits_iff.1 hhit
    have hterm : span.term ∈ terms := List.mem_of_getElem? (findIdx?_eq_some hk)
    obtain ⟨place', span', hfirst, hlast, hplace', heq⟩ :=
      h span.term hterm (List.mem_map_of_mem (List.mem_of_getElem? hplace))
    exact ⟨(place', k), mem_hits_iff.2 ⟨span', hplace', heq ▸ hk⟩, rfl, hfirst, hlast⟩
  · intro h t ht hmem
    obtain ⟨span, hspan, rfl⟩ := List.mem_map.1 hmem
    obtain ⟨place, hplace⟩ := List.mem_iff_getElem?.1 hspan
    obtain ⟨k, hk⟩ := exists_findIdx? ht
    obtain ⟨⟨place', k'⟩, hother, heq, hfirst, hlast⟩ := h _ (mem_hits_iff.2 ⟨span, hplace, hk⟩)
    obtain rfl : k' = k := heq
    obtain ⟨span', hplace', hk'⟩ := mem_hits_iff.1 hother
    have hsame := (findIdx?_eq_some hk').symm.trans (findIdx?_eq_some hk)
    exact ⟨place', span', hfirst, hlast, hplace', Option.some.inj hsame⟩

/-! ### The clusters that are tried -/

/-- The clusters from `first` on, one for each hit of a term that is not seen yet. -/
def newClusters (first : Nat) (seen : List Nat) : List (Nat × Nat) → List Cluster
  | [] => []
  | (place, term) :: rest =>
    if seen.contains term then newClusters first seen rest
    else ⟨seen.length + 1, ⟨first, place⟩⟩ :: newClusters first (term :: seen) rest

/-- The clusters from each of the hits on. -/
def allClusters : List (Nat × Nat) → List Cluster
  | [] => []
  | (place, term) :: rest => newClusters place [] ((place, term) :: rest) ++ allClusters rest

theorem newClusters_of_full {first : Nat} {seen : List Nat} {rest : List (Nat × Nat)}
    (h : ∀ hit ∈ rest, hit.2 ∈ seen) : newClusters first seen rest = [] := by
  induction rest with
  | nil => rfl
  | cons hit rest ih =>
      have hseen : seen.contains hit.2 = true := List.contains_iff_mem.2 (h hit List.mem_cons_self)
      rw [newClusters, if_pos hseen]
      exact ih fun other hother => h other (List.mem_cons_of_mem _ hother)

/-- As many different terms as are wanted are all that are wanted. -/
theorem mem_of_length_eq {wanted : Nat} {seen : List Nat} (hnodup : seen.Nodup)
    (hseen : ∀ k ∈ seen, k < wanted) (hlength : seen.length = wanted) {k : Nat} (hk : k < wanted) :
    k ∈ seen := by
  have hsub : seen ⊆ List.range wanted := fun k hk => List.mem_range.2 (hseen k hk)
  have hperm := (List.subperm_of_subset hnodup hsub).perm_of_length_le (by
    rw [List.length_range, hlength])
  exact hperm.mem_iff.2 (List.mem_range.2 hk)

/-- Stopping early makes no difference. -/
theorem tryFrom_eq {wanted first : Nat} {seen : List Nat} {rest : List (Nat × Nat)}
    (hnodup : seen.Nodup) (hseen : ∀ k ∈ seen, k < wanted) (hrest : ∀ hit ∈ rest, hit.2 < wanted)
    (best : Option Cluster) :
    tryFrom wanted first seen best rest = (newClusters first seen rest).foldl better best := by
  -- the terms seen are different and wanted, so there are never more of them than are wanted
  induction rest generalizing seen best with
  | nil => rfl
  | cons hit rest ih =>
      obtain ⟨place, k⟩ := hit
      have hk := hrest _ List.mem_cons_self
      have hrest' : ∀ hit ∈ rest, hit.2 < wanted := fun hit hhit =>
        hrest hit (List.mem_cons_of_mem _ hhit)
      rw [tryFrom, newClusters]
      split
      · exact ih hnodup hseen hrest' best
      · next hnew =>
          have hnodup' : (k :: seen).Nodup :=
            List.nodup_cons.2 ⟨fun hmem => hnew (List.contains_iff_mem.2 hmem), hnodup⟩
          have hseen' : ∀ j ∈ k :: seen, j < wanted := by
            intro j hj
            rcases List.mem_cons.1 hj with rfl | hj
            · exact hk
            · exact hseen j hj
          rw [List.foldl_cons]
          dsimp only
          split
          · next hlength =>
              -- where the search stops, no new cluster is left
              rw [newClusters_of_full fun hit hhit =>
                mem_of_length_eq hnodup' hseen' hlength (hrest' hit hhit)]
              rfl
          · exact ih hnodup' hseen' hrest' _

/-- No cluster holds more terms than there are, so the search may stop at one that holds all. -/
theorem tryAll_eq {wanted : Nat} {rest : List (Nat × Nat)} (hrest : ∀ hit ∈ rest, hit.2 < wanted)
    (best : Option Cluster) : tryAll wanted best rest = (allClusters rest).foldl better best := by
  induction rest generalizing best with
  | nil => rfl
  | cons hit rest ih =>
      rw [tryAll, allClusters, List.foldl_append, tryFrom_eq List.nodup_nil (by simp) hrest]
      exact ih (fun other hother => hrest other (List.mem_cons_of_mem _ hother)) _

/-- The cluster that is taken is the best one of those that are tried. -/
theorem cluster?_eq (spans : List Span) (terms : List String) :
    cluster? spans terms =
      ((allClusters (hits spans terms)).foldl better none).map Cluster.window := by
  rw [cluster?, tryAll_eq fun hit hhit => lt_of_mem_hits hhit]

/-! ### The best of many -/

theorem beats_iff {a b : Cluster} :
    a.beats b = true ↔ b.distinct < a.distinct ∨ (a.distinct = b.distinct ∧
      a.window.last - a.window.first < b.window.last - b.window.first) := by
  rw [Cluster.beats, Bool.or_eq_true, Bool.and_eq_true, decide_eq_true_eq, decide_eq_true_eq,
    decide_eq_true_eq]

/-- The first cluster that no other one beats: it beats those that come before it. -/
theorem foldl_better (old : Cluster) (clusters : List Cluster) :
    ∃ best before after, clusters.foldl better (some old) = some best ∧
      old :: clusters = before ++ best :: after ∧ (∀ c ∈ before, best.beats c = true) ∧
      ∀ c ∈ after, ¬c.beats best = true := by
  induction clusters generalizing old with
  | nil => exact ⟨old, [], [], rfl, rfl, by simp, by simp⟩
  | cons new clusters ih =>
      rw [List.foldl_cons, better]
      split
      · next hbeats =>
          obtain ⟨best, before, after, hfold, heq, hbefore, hafter⟩ := ih new
          refine ⟨best, old :: before, after, hfold, by rw [heq]; rfl, ?_, hafter⟩
          intro c hc
          rcases List.mem_cons.1 hc with rfl | hc
          · -- what beats the new one beats the old one as well
            cases before with
            | nil =>
                cases heq
                exact hbeats
            | cons d before =>
                cases heq
                have hnew := hbefore new List.mem_cons_self
                rw [beats_iff] at hbeats hnew ⊢
                omega
          · exact hbefore c hc
      · next hkeeps =>
          -- the new one does not beat the old one, nor what beats the old one
          obtain ⟨best, before, after, hfold, heq, hbefore, hafter⟩ := ih old
          cases before with
          | nil =>
              cases heq
              refine ⟨old, [], new :: clusters, hfold, rfl, by simp, ?_⟩
              intro c hc
              rcases List.mem_cons.1 hc with rfl | hc
              · exact hkeeps
              · exact hafter c hc
          | cons d before =>
              cases heq
              have hold := hbefore old List.mem_cons_self
              refine ⟨best, old :: new :: before, after, hfold, rfl, ?_, hafter⟩
              intro c hc
              rcases List.mem_cons.1 hc with rfl | hc
              · exact hold
              · rcases List.mem_cons.1 hc with rfl | hc
                · rw [beats_iff] at hkeeps hold ⊢
                  omega
                · exact hbefore c (List.mem_cons_of_mem _ hc)

/-- Of clusters that are tried from the left, the best is the leftmost one that no other beats. -/
theorem best_of_pairwise {clusters : List Cluster} {best : Cluster}
    (hleft : clusters.Pairwise fun a b => a.window.first ≤ b.window.first)
    (h : clusters.foldl better none = some best) :
    best ∈ clusters ∧ (∀ c ∈ clusters, ¬c.beats best = true) ∧
      ∀ c ∈ clusters, ¬best.beats c = true → best.window.first ≤ c.window.first := by
  cases clusters with
  | nil => cases h
  | cons old clusters =>
      -- every cluster before the winner is worse, every one behind is not better
      obtain ⟨best', before, after, hfold, hsplit, hbefore, hafter⟩ := foldl_better old clusters
      obtain rfl : best' = best := Option.some.inj (hfold.symm.trans h)
      rw [hsplit] at hleft ⊢
      refine ⟨List.mem_append_right _ List.mem_cons_self, fun c hc => ?_, fun c hc hgood => ?_⟩
      · rw [List.mem_append, List.mem_cons] at hc
        rcases hc with hc | rfl | hc
        · have hworse := hbefore c hc
          rw [beats_iff] at hworse ⊢
          omega
        · rw [beats_iff]
          omega
        · exact hafter c hc
      · rw [List.mem_append, List.mem_cons] at hc
        rcases hc with hc | rfl | hc
        · exact absurd (hbefore c hc) hgood
        · exact Nat.le_refl _
        · exact (List.pairwise_cons.1 (List.pairwise_append.1 hleft).2.1).1 c hc

/-! ### What a cluster holds -/

def found (part : List (Nat × Nat)) : Finset Nat :=
  (part.map Prod.snd).toFinset

@[simp] theorem found_nil : found [] = ∅ :=
  rfl

@[simp] theorem found_cons (hit : Nat × Nat) (part : List (Nat × Nat)) :
    found (hit :: part) = insert hit.2 (found part) := by
  rw [found, List.map_cons, List.toFinset_cons, ← found]

theorem mem_found {part : List (Nat × Nat)} {k : Nat} :
    k ∈ found part ↔ ∃ hit ∈ part, hit.2 = k := by
  rw [found, List.mem_toFinset, List.mem_map]

section New

variable {first place k : Nat} {seen : List Nat} {front rest : List (Nat × Nat)} {c : Cluster}

/-- A hit of a term that is seen already adds nothing. -/
theorem union_found_cons_of_mem (h : k ∈ seen) (front : List (Nat × Nat)) :
    seen.toFinset ∪ found ((place, k) :: front) = seen.toFinset ∪ found front := by
  rw [found_cons, Finset.union_insert]
  exact Finset.insert_eq_of_mem (Finset.mem_union_left _ (List.mem_toFinset.2 h))

/-- A term may be seen before the hits or in their first one. -/
theorem toFinset_cons_union_found (seen : List Nat) (front : List (Nat × Nat)) :
    (k :: seen).toFinset ∪ found front = seen.toFinset ∪ found ((place, k) :: front) := by
  rw [found_cons, List.toFinset_cons, Finset.insert_union, Finset.union_insert]

/-- A new cluster counts the terms of a row of hits and ends with the last of them. -/
theorem exists_of_mem_newClusters (hnodup : seen.Nodup) (h : c ∈ newClusters first seen rest) :
    c.window.first = first ∧ ∃ front, front <+: rest ∧
      c.distinct = (seen.toFinset ∪ found front).card ∧
      ∃ hit, front.getLast? = some hit ∧ hit.1 = c.window.last := by
  -- what counts is the union of the terms seen and those in the row, and a hit only moves one over
  induction rest generalizing seen with
  | nil => cases h
  | cons hit rest ih =>
      obtain ⟨place, k⟩ := hit
      -- a longer row of hits ends with the same hit
      have hextend {front : List (Nat × Nat)} {last : Nat × Nat} (h : front.getLast? = some last) :
          ((place, k) :: front).getLast? = some last := by
        obtain ⟨ys, rfl⟩ := List.getLast?_eq_some_iff.1 h
        exact List.getLast?_eq_some_iff.2 ⟨(place, k) :: ys, rfl⟩
      rw [newClusters] at h
      split at h
      · next hseen =>
          obtain ⟨hfirst, front, hfront, hdistinct, last, hlast, hplace⟩ := ih hnodup h
          refine ⟨hfirst, (place, k) :: front, (List.prefix_cons_inj _).2 hfront, ?_, last,
            hextend hlast, hplace⟩
          rw [hdistinct, union_found_cons_of_mem (List.contains_iff_mem.1 hseen)]
      · next hnew =>
          have hnodup' : (k :: seen).Nodup :=
            List.nodup_cons.2 ⟨fun hmem => hnew (List.contains_iff_mem.2 hmem), hnodup⟩
          rcases List.mem_cons.1 h with rfl | h
          · have hfront : [(place, k)] <+: (place, k) :: rest :=
              (List.prefix_cons_inj _).2 List.nil_prefix
            refine ⟨rfl, [(place, k)], hfront, ?_, (place, k), rfl, rfl⟩
            rw [← toFinset_cons_union_found, found_nil, Finset.union_empty,
              List.toFinset_card_of_nodup hnodup']
            rfl
          · obtain ⟨hfirst, front, hfront, hdistinct, last, hlast, hplace⟩ := ih hnodup' h
            refine ⟨hfirst, (place, k) :: front, (List.prefix_cons_inj _).2 hfront, ?_, last,
              hextend hlast, hplace⟩
            rw [hdistinct, toFinset_cons_union_found]

/-- For each row of hits with a new term, a new cluster counts its terms and ends inside it. -/
theorem exists_newCluster (first : Nat) (hnodup : seen.Nodup) (hfront : front <+: rest)
    (hnew : ∃ hit ∈ front, hit.2 ∉ seen) :
    ∃ c ∈ newClusters first seen rest, c.window.first = first ∧
      c.distinct = (seen.toFinset ∪ found front).card ∧ ∃ hit ∈ front, hit.1 = c.window.last := by
  induction front generalizing seen rest with
  | nil =>
      obtain ⟨hit, hmem, -⟩ := hnew
      cases hmem
  -- the row grows by one hit; only a hit of a new term puts out a cluster
  | cons hit front ih =>
      obtain ⟨place, k⟩ := hit
      obtain ⟨back, rfl⟩ := hfront
      rw [List.cons_append, newClusters]
      split
      · next hseen =>
          have hk := List.contains_iff_mem.1 hseen
          have hnew' : ∃ hit ∈ front, hit.2 ∉ seen := by
            obtain ⟨hit, hmem, hnot⟩ := hnew
            rcases List.mem_cons.1 hmem with rfl | hmem
            · exact absurd hk hnot
            · exact ⟨hit, hmem, hnot⟩
          obtain ⟨c, hc, hfirst, hdistinct, last, hlast, hplace⟩ :=
            ih hnodup (List.prefix_append front back) hnew'
          refine ⟨c, hc, hfirst, ?_, last, List.mem_cons_of_mem _ hlast, hplace⟩
          rw [hdistinct, union_found_cons_of_mem hk]
      · next hk =>
          have hnodup' : (k :: seen).Nodup :=
            List.nodup_cons.2 ⟨fun hmem => hk (List.contains_iff_mem.2 hmem), hnodup⟩
          by_cases hmore : ∃ hit ∈ front, hit.2 ∉ k :: seen
          · obtain ⟨c, hc, hfirst, hdistinct, last, hlast, hplace⟩ :=
              ih hnodup' (List.prefix_append front back) hmore
            refine ⟨c, List.mem_cons_of_mem _ hc, hfirst, ?_, last, List.mem_cons_of_mem _ hlast,
              hplace⟩
            rw [hdistinct, toFinset_cons_union_found]
          · -- the row has no new term but the first
            refine ⟨_, List.mem_cons_self, rfl, ?_, (place, k), List.mem_cons_self, rfl⟩
            have hsub : found front ⊆ (k :: seen).toFinset := by
              intro j hj
              obtain ⟨hit, hmem, rfl⟩ := mem_found.1 hj
              by_contra hnot
              exact hmore ⟨hit, hmem, fun h => hnot (List.mem_toFinset.2 h)⟩
            rw [← toFinset_cons_union_found, Finset.union_eq_left.2 hsub,
              List.toFinset_card_of_nodup hnodup']
            rfl

end New

section All

variable {rest part : List (Nat × Nat)} {c : Cluster}

/-- A cluster counts the terms of a row of hits and reaches from the first to the last of them. -/
theorem exists_of_mem_allClusters (h : c ∈ allClusters rest) :
    ∃ part, part <:+: rest ∧ c.distinct = (found part).card ∧
      (∃ hit, part.head? = some hit ∧ hit.1 = c.window.first) ∧
      ∃ hit, part.getLast? = some hit ∧ hit.1 = c.window.last := by
  induction rest with
  | nil => cases h
  | cons hit rest ih =>
      rw [allClusters] at h
      rcases List.mem_append.1 h with h | h
      · -- a cluster that begins at this hit
        obtain ⟨hfirst, front, hfront, hdistinct, last, hlast, hplace⟩ :=
          exists_of_mem_newClusters List.nodup_nil h
        refine ⟨front, hfront.isInfix, by simpa using hdistinct, ⟨hit, ?_, hfirst.symm⟩, last,
          hlast, hplace⟩
        have hne : front ≠ [] := by
          rintro rfl
          cases hlast
        obtain ⟨first, front, rfl⟩ := List.exists_cons_of_ne_nil hne
        rw [List.head?_cons, (List.cons_prefix_cons.1 hfront).1]
      · obtain ⟨part, hpart, hcluster⟩ := ih h
        exact ⟨part, hpart.trans (List.suffix_cons hit rest).isInfix, hcluster⟩

/-- For each row of hits, a cluster counts its terms, begins with it and ends inside it. -/
theorem exists_cluster (hpart : part <:+: rest) (hne : part ≠ []) :
    ∃ c ∈ allClusters rest, c.distinct = (found part).card ∧
      (∃ hit ∈ part, hit.1 = c.window.first) ∧ ∃ hit ∈ part, hit.1 = c.window.last := by
  induction rest with
  | nil => exact absurd (List.infix_nil.1 hpart) hne
  | cons hit rest ih =>
      rw [allClusters]
      rcases List.infix_cons_iff.1 hpart with hfront | hpart
      · have hnew : ∃ hit ∈ part, hit.2 ∉ ([] : List Nat) := by
          obtain ⟨hit, part, rfl⟩ := List.exists_cons_of_ne_nil hne
          exact ⟨hit, List.mem_cons_self, List.not_mem_nil⟩
        obtain ⟨c, hc, hfirst, hdistinct, hlast⟩ :=
          exists_newCluster hit.1 List.nodup_nil hfront hnew
        refine ⟨c, List.mem_append_left _ hc, by simpa using hdistinct, ⟨hit, ?_, hfirst.symm⟩, hlast⟩
        obtain ⟨first, part, rfl⟩ := List.exists_cons_of_ne_nil hne
        exact (List.cons_prefix_cons.1 hfront).1 ▸ List.mem_cons_self
      · obtain ⟨c, hc, hcluster⟩ := ih hpart
        exact ⟨c, List.mem_append_right _ hc, hcluster⟩

/-- The clusters are tried from the left. -/
theorem pairwise_allClusters (h : rest.Pairwise fun a b => a.1 < b.1) :
    (allClusters rest).Pairwise fun a b => a.window.first ≤ b.window.first := by
  induction rest with
  | nil => exact List.Pairwise.nil
  | cons hit rest ih =>
      obtain ⟨hfirst, hrest⟩ := List.pairwise_cons.1 h
      have hnew (c : Cluster) (hc : c ∈ newClusters hit.1 [] (hit :: rest)) :
          c.window.first = hit.1 := (exists_of_mem_newClusters List.nodup_nil hc).1
      rw [allClusters, List.pairwise_append]
      refine ⟨?_, ih hrest, ?_⟩
      · exact List.pairwise_of_forall_mem_list fun a ha b hb =>
          Nat.le_of_eq ((hnew a ha).trans (hnew b hb).symm)
      · intro a ha b hb
        obtain ⟨part, hpart, -, ⟨other, hother, heq⟩, -⟩ := exists_of_mem_allClusters hb
        have hlt := hfirst other (hpart.subset (List.mem_of_mem_head? hother))
        rw [hnew a ha, ← heq]
        exact Nat.le_of_lt hlt

/-! ### Hits in order -/

section Sorted

/-- Of items in order, those before the first that fails are those that do not fail. -/
theorem mem_takeWhile_iff {α : Type} {R : α → α → Prop} {p : α → Bool} {items : List α}
    (hitems : items.Pairwise R) (hp : ∀ a b, R a b → p b = true → p a = true) {a : α} :
    a ∈ items.takeWhile p ↔ a ∈ items ∧ p a = true := by
  induction items with
  | nil => simp
  | cons b items ih =>
      obtain ⟨hb, hitems⟩ := List.pairwise_cons.1 hitems
      rw [List.takeWhile_cons]
      cases hpb : p b with
      | true =>
          rw [if_pos rfl, List.mem_cons, List.mem_cons, ih hitems, or_and_right]
          exact or_congr_left ⟨fun h => ⟨h, h ▸ hpb⟩, And.left⟩
      | false =>
          refine iff_of_false (by simp) fun ⟨hmem, hpa⟩ => ?_
          rcases List.mem_cons.1 hmem with rfl | hmem
          · exact absurd hpa (by simp [hpb])
          · exact absurd (hp b a (hb a hmem) hpa) (by simp [hpb])

/-- Of items in order, those from the first that fails on are those that fail. -/
theorem mem_dropWhile_iff {α : Type} {R : α → α → Prop} {p : α → Bool} {items : List α}
    (hitems : items.Pairwise R) (hp : ∀ a b, R a b → p b = true → p a = true) {a : α} :
    a ∈ items.dropWhile p ↔ a ∈ items ∧ p a = false := by
  induction items with
  | nil => simp
  | cons b items ih =>
      obtain ⟨hb, hitems⟩ := List.pairwise_cons.1 hitems
      rw [List.dropWhile_cons]
      cases hpb : p b with
      | true =>
          rw [if_pos rfl, List.mem_cons, ih hitems, or_and_right]
          refine ⟨.inr, fun h => h.resolve_left fun ⟨heq, hpa⟩ => ?_⟩
          exact absurd (heq ▸ hpa) (by simp [hpb])
      | false =>
          rw [if_neg Bool.false_ne_true]
          refine ⟨fun hmem => ⟨hmem, ?_⟩, And.left⟩
          rcases List.mem_cons.1 hmem with rfl | hmem
          · exact hpb
          · by_contra hpa
            -- dropping stopped at b, and what satisfies p behind b would make b satisfy it too
            exact absurd (hp b a (hb a hmem) (by simpa using hpa)) (by simp [hpb])

def hitsInside (w : Window) (rest : List (Nat × Nat)) : List (Nat × Nat) :=
  (rest.dropWhile fun hit => hit.1 < w.first).takeWhile fun hit => hit.1 ≤ w.last

theorem hitsInside_isInfix (w : Window) (rest : List (Nat × Nat)) : hitsInside w rest <:+: rest :=
  (List.takeWhile_prefix _).isInfix.trans (List.dropWhile_suffix _).isInfix

/-- The hits inside a window are those between its ends. -/
theorem mem_hitsInside_iff (h : rest.Pairwise fun a b => a.1 < b.1) {w : Window} {hit : Nat × Nat} :
    hit ∈ hitsInside w rest ↔ hit ∈ rest ∧ w.first ≤ hit.1 ∧ hit.1 ≤ w.last := by
  have hrest := h.sublist (List.dropWhile_sublist fun hit => decide (hit.1 < w.first))
  -- the places ascend, so those before a window come first and those behind it last
  rw [hitsInside, mem_takeWhile_iff hrest, mem_dropWhile_iff h, decide_eq_true_eq,
    decide_eq_false_iff_not, Nat.not_lt, and_assoc]
  · intro a b hlt hb
    simp only [decide_eq_true_eq] at hb ⊢
    omega
  · intro a b hlt hb
    simp only [decide_eq_true_eq] at hb ⊢
    omega

/-- Hits in order lie between the first and the last of them. -/
theorem between_of_mem (h : part.Pairwise fun a b => a.1 < b.1) {first last hit : Nat × Nat}
    (hfirst : part.head? = some first) (hlast : part.getLast? = some last) (hhit : hit ∈ part) :
    first.1 ≤ hit.1 ∧ hit.1 ≤ last.1 := by
  constructor
  · obtain ⟨rest, rfl⟩ := List.head?_eq_some_iff.1 hfirst
    rcases List.mem_cons.1 hhit with rfl | hhit
    · exact Nat.le_refl _
    · exact Nat.le_of_lt ((List.pairwise_cons.1 h).1 hit hhit)
  · obtain ⟨front, rfl⟩ := List.getLast?_eq_some_iff.1 hlast
    rcases List.mem_append.1 hhit with hhit | hhit
    · exact Nat.le_of_lt ((List.pairwise_append.1 h).2.2 hit hhit last List.mem_cons_self)
    · rw [List.mem_singleton.1 hhit]

end Sorted

end All

/-! ### The best cluster -/

/-- There is a cluster unless none of the terms is there. -/
theorem cluster?_eq_none_iff :
    cluster? spans terms = none ↔ ∀ span ∈ spans, span.term ∉ terms := by
  rw [← hits_eq_nil_iff, cluster?_eq, Option.map_eq_none_iff]
  constructor
  · intro hnone
    by_contra hne
    obtain ⟨c, hc, -⟩ := exists_cluster (List.infix_refl _) hne
    obtain ⟨old, clusters, heq⟩ := List.exists_cons_of_ne_nil (List.ne_nil_of_mem hc)
    obtain ⟨best, -, -, hbest, -⟩ := foldl_better old clusters
    rw [heq, List.foldl_cons, better, hbest] at hnone
    cases hnone
  · intro hnil
    rw [hnil]
    rfl

section Best

variable {w : Window}

/-- A window with all terms has as many different hits as there are. -/
theorem found_hitsInside (h : w.HoldsAll spans terms) :
    found (hitsInside w (hits spans terms)) = found (hits spans terms) := by
  ext k
  rw [mem_found, mem_found]
  constructor
  · rintro ⟨hit, hhit, hk⟩
    exact ⟨hit, (hitsInside_isInfix w _).subset hhit, hk⟩
  · rintro ⟨hit, hhit, rfl⟩
    obtain ⟨other, hother, heq, hinside⟩ := holdsAll_iff.1 h hit hhit
    exact ⟨other, (mem_hitsInside_iff (pairwise_hits spans terms)).2 ⟨hother, hinside⟩, heq⟩

/-- Inside each window with all terms, a cluster is tried that has all terms. -/
theorem exists_cluster_inside (hne : hits spans terms ≠ []) (h : w.HoldsAll spans terms) :
    ∃ c ∈ allClusters (hits spans terms), c.distinct = (found (hits spans terms)).card ∧
      w.first ≤ c.window.first ∧ c.window.last ≤ w.last := by
  have hinside_ne : hitsInside w (hits spans terms) ≠ [] := by
    obtain ⟨hit, hhit⟩ := List.exists_mem_of_ne_nil _ hne
    obtain ⟨other, hother, -, hinside⟩ := holdsAll_iff.1 h hit hhit
    exact List.ne_nil_of_mem ((mem_hitsInside_iff (pairwise_hits spans terms)).2 ⟨hother, hinside⟩)
  obtain ⟨c, hc, hdistinct, ⟨first, hfirst, hfirst_eq⟩, last, hlast, hlast_eq⟩ :=
    exists_cluster (hitsInside_isInfix w _) hinside_ne
  rw [mem_hitsInside_iff (pairwise_hits spans terms)] at hfirst hlast
  exact ⟨c, hc, hdistinct.trans (by rw [found_hitsInside h]), hfirst_eq ▸ hfirst.2.1,
    hlast_eq ▸ hlast.2.2⟩

theorem found_subset {part rest : List (Nat × Nat)} (h : part <:+: rest) :
    found part ⊆ found rest := by
  intro k hk
  obtain ⟨hit, hhit, rfl⟩ := mem_found.1 hk
  exact mem_found.2 ⟨hit, h.subset hhit, rfl⟩

/-- A cluster cannot count more terms than there are. -/
theorem distinct_le_of_mem {c : Cluster} {rest : List (Nat × Nat)} (h : c ∈ allClusters rest) :
    c.distinct ≤ (found rest).card := by
  obtain ⟨part, hpart, hdistinct, -⟩ := exists_of_mem_allClusters h
  rw [hdistinct]
  exact Finset.card_le_card (found_subset hpart)

/-- A cluster that counts all terms holds them. -/
theorem holdsAll_of_mem_allClusters {c : Cluster} (hc : c ∈ allClusters (hits spans terms))
    (hcard : (found (hits spans terms)).card ≤ c.distinct) :
    c.window.HoldsAll spans terms := by
  obtain ⟨part, hpart, hdistinct, ⟨first, hfirst, hfirst_eq⟩, last, hlast, hlast_eq⟩ :=
    exists_of_mem_allClusters hc
  have hall : found part = found (hits spans terms) :=
    Finset.eq_of_subset_of_card_le (found_subset hpart) (hdistinct ▸ hcard)
  rw [holdsAll_iff]
  intro hit hhit
  obtain ⟨other, hother, heq⟩ := mem_found.1 (hall ▸ mem_found.2 ⟨hit, hhit, rfl⟩)
  have hbetween := between_of_mem ((pairwise_hits spans terms).sublist hpart.sublist) hfirst hlast hother
  exact ⟨other, hpart.subset hother, heq, hfirst_eq ▸ hbetween.1, hlast_eq ▸ hbetween.2⟩

/-- A cluster ends with a span, and not before it begins. -/
theorem bounds_of_mem_allClusters {c : Cluster} (hc : c ∈ allClusters (hits spans terms)) :
    c.window.first ≤ c.window.last ∧ c.window.last < spans.length := by
  obtain ⟨part, hpart, -, ⟨first, hfirst, hfirst_eq⟩, last, hlast, hlast_eq⟩ :=
    exists_of_mem_allClusters hc
  have hmem : last ∈ part := List.mem_of_getLast? hlast
  have hbetween := between_of_mem ((pairwise_hits spans terms).sublist hpart.sublist) hfirst hlast hmem
  obtain ⟨span, hspan, -⟩ := mem_hits_iff.1 (hpart.subset hmem)
  rw [← hfirst_eq, ← hlast_eq]
  exact ⟨hbetween.1, (List.getElem?_eq_some_iff.1 hspan).1⟩

/-- The cluster is the leftmost of the shortest windows with all terms. -/
theorem isLeast_of_cluster? (h : cluster? spans terms = some w) : w.IsLeast spans terms := by
  rw [cluster?_eq, Option.map_eq_some_iff] at h
  obtain ⟨best, hbest, rfl⟩ := h
  obtain ⟨hmem, hbeats, hleft⟩ := best_of_pairwise (pairwise_allClusters (pairwise_hits spans terms)) hbest
  have hne : hits spans terms ≠ [] := by
    intro hnil
    rw [hnil] at hbest
    cases hbest
  -- the cluster over all hits has all terms, and the best one has no fewer
  have hcard : best.distinct = (found (hits spans terms)).card := by
    obtain ⟨c, hc, hdistinct, -⟩ := exists_cluster (List.infix_refl _) hne
    have hle := distinct_le_of_mem hmem
    have hkeeps := hbeats c hc
    rw [beats_iff] at hkeeps
    omega
  obtain ⟨hfirst, hlast⟩ := bounds_of_mem_allClusters hmem
  refine ⟨hfirst, hlast, holdsAll_of_mem_allClusters hmem (Nat.le_of_eq hcard.symm), ?_, ?_⟩
  · intro v hv
    obtain ⟨c, hc, hdistinct, hcfirst, hclast⟩ := exists_cluster_inside hne hv
    have hkeeps := hbeats c hc
    rw [beats_iff] at hkeeps
    omega
  · intro v hv hlength
    obtain ⟨c, hc, hdistinct, hcfirst, hclast⟩ := exists_cluster_inside hne hv
    have hbounds := bounds_of_mem_allClusters hc
    have hkeeps := hbeats c hc
    rw [beats_iff] at hkeeps
    -- the one inside is as long, so it begins where `v` does
    have hgood : ¬best.beats c = true := by
      rw [beats_iff]
      omega
    have hle := hleft c hc hgood
    omega

/-- Of two shortest windows with both terms the first is taken. -/
example :
    cluster? (["b", "x", "a", "b", "a"].map fun term => ⟨term, 0, ⟨0, 0⟩, ⟨0, 0⟩⟩)
      ["a", "b", "c"] = some ⟨2, 3⟩ := by
  decide

end Best

end Concordance.Snippet
