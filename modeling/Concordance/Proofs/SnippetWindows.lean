import Concordance.Proofs.Outcomes
import Concordance.Snippet.Measured
import Mathlib.Data.List.Basic

/-!
# The windows of snippets

What the search for a window does step by step: cutting keeps the first span, the nearest span that fits is
one of those that fit, and growing keeps what a window holds and ends when no span more fits. On spans that
stand in order every width that is asked for can be measured.
-/

namespace Concordance.Snippet

variable {spans : Array Span} {width : Nat} {v w : Window}

/-- Both ends of a window are there, and the first does not come behind the last. -/
structure Window.Within (spans : Array Span) (w : Window) : Prop where
  first_le_last : w.first ≤ w.last
  last_lt : w.last < spans.size

def Window.Contains (w v : Window) : Prop :=
  w.first ≤ v.first ∧ v.last ≤ w.last

/-- The window is narrow enough, and would be too wide with one more span on either side. -/
structure Window.Full (spans : Array Span) (width : Nat) (w : Window) : Prop where
  within : w.Within spans
  width_le : w.width spans ≤ width
  start_lt : 0 < w.first → width < Window.width spans ⟨w.first - 1, w.last⟩
  end_lt : w.last + 1 < spans.size → width < Window.width spans ⟨w.first, w.last + 1⟩

theorem fits_iff : fits spans width w = true ↔ w.width spans ≤ width := by
  rw [fits, decide_eq_true_eq]

theorem fits_eq_false_iff : fits spans width w = false ↔ width < w.width spans := by
  rw [fits, decide_eq_false_iff_not, Nat.not_le]

/-! ### Cutting -/

theorem cutAt_of_fits {first last : Nat} (h : fits spans width ⟨first, last⟩ = true) :
    cutAt spans width first last = ⟨first, last⟩ := by
  cases last with
  | zero => rfl
  | succ last => rw [cutAt, if_neg (by simp [h])]

/-- Cutting keeps the first span and stops at a window that fits, or at this span alone. -/
theorem cutAt_spec (spans : Array Span) (width : Nat) {first last : Nat} (h : first ≤ last) :
    (cutAt spans width first last).first = first ∧
      first ≤ (cutAt spans width first last).last ∧ (cutAt spans width first last).last ≤ last ∧
      (fits spans width (cutAt spans width first last) = true ∨
        cutAt spans width first last = ⟨first, first⟩) := by
  induction last with
  | zero =>
      obtain rfl : first = 0 := by omega
      exact ⟨rfl, Nat.le_refl _, Nat.le_refl _, .inr rfl⟩
  | succ last ih =>
      rw [cutAt]
      split
      · next hcut =>
          obtain ⟨hfirst, hle, hlast, hfits⟩ := ih (by omega)
          exact ⟨hfirst, hle, by omega, hfits⟩
      · next hstop =>
          refine ⟨rfl, h, Nat.le_refl _, ?_⟩
          by_cases heq : first = last + 1
          · exact .inr (heq ▸ rfl)
          · left
            by_contra hwide
            exact hstop ⟨by omega, by simpa using hwide⟩

theorem Window.Within.cutAt (h : w.Within spans) :
    (Snippet.cutAt spans width w.first w.last).Within spans := by
  obtain ⟨hfirst, hle, hlast, -⟩ := cutAt_spec spans width h.first_le_last
  exact ⟨Nat.le_trans (Nat.le_of_eq hfirst) hle, Nat.lt_of_le_of_lt hlast h.last_lt⟩

/-! ### The nearest span that fits -/

def nearer (place : Nat) (best : Option Nat) (i : Nat) : Option Nat :=
  match best with
  | none => some i
  | some b => if distance i place < distance b place then some i else some b

theorem nearestFit?_eq (spans : Array Span) (width place : Nat) :
    nearestFit? spans width place =
      ((List.range spans.size).filter fun i => fits spans width ⟨i, i⟩).foldl (nearer place) none :=
  rfl

/-- The nearer of two spans is one of them. -/
theorem nearer_cases (place : Nat) (best : Option Nat) (i : Nat) :
    nearer place best i = some i ∨ ∃ b, best = some b ∧ nearer place best i = some b := by
  cases best with
  | none => exact .inl rfl
  | some b =>
      rw [nearer]
      split
      · exact .inl rfl
      · exact .inr ⟨b, rfl, rfl⟩

/-- The nearest place so far, or one of those that come behind it. -/
theorem foldl_nearer_some (place : Nat) (places : List Nat) (b : Nat) :
    ∃ i, places.foldl (nearer place) (some b) = some i ∧ (i = b ∨ i ∈ places) := by
  induction places generalizing b with
  | nil => exact ⟨b, rfl, .inl rfl⟩
  | cons j places ih =>
      rw [List.foldl_cons]
      rcases nearer_cases place (some b) j with heq | ⟨b', hb, heq⟩
      · rw [heq]
        obtain ⟨i, hi, hmem⟩ := ih j
        exact ⟨i, hi, .inr (List.mem_cons.2 hmem)⟩
      · rw [heq]
        obtain ⟨i, hi, hmem⟩ := ih b'
        cases hb
        exact ⟨i, hi, hmem.imp_right (List.mem_cons_of_mem _)⟩

/-- A span that fits is found if there is one. -/
theorem nearestFit?_cases (spans : Array Span) (width place : Nat) :
    (nearestFit? spans width place = none ∧
        ∀ i, i < spans.size → fits spans width ⟨i, i⟩ = false) ∨
      ∃ i, nearestFit? spans width place = some i ∧ i < spans.size ∧
        fits spans width ⟨i, i⟩ = true := by
  rw [nearestFit?_eq]
  cases hfitting : (List.range spans.size).filter fun i => fits spans width ⟨i, i⟩ with
  | nil =>
      rw [List.filter_eq_nil_iff] at hfitting
      refine .inl ⟨rfl, fun i hi => ?_⟩
      simpa using hfitting i (List.mem_range.2 hi)
  | cons j places =>
      obtain ⟨i, hi, hmem⟩ := foldl_nearer_some place places j
      have hin : i ∈ (List.range spans.size).filter fun i => fits spans width ⟨i, i⟩ :=
        hfitting ▸ List.mem_cons.2 hmem
      obtain ⟨hrange, hfits⟩ := List.mem_filter.1 hin
      exact .inr ⟨i, hi, List.mem_range.1 hrange, hfits⟩

/-! ### Growing -/

/-- A window grows by one span at the start exactly if it still fits then. -/
theorem growStart_cases (spans : Array Span) (width : Nat) (w : Window) :
    (0 < w.first ∧ fits spans width ⟨w.first - 1, w.last⟩ = true ∧
        growStart spans width w = ⟨w.first - 1, w.last⟩) ∨
      ((0 < w.first → fits spans width ⟨w.first - 1, w.last⟩ = false) ∧
        growStart spans width w = w) := by
  rw [growStart]
  split
  · next h => exact .inl ⟨h.1, h.2, rfl⟩
  · next h => exact .inr ⟨fun hpos => by simpa using fun hfits => h ⟨hpos, hfits⟩, rfl⟩

/-- And so it does at the end. -/
theorem growEnd_cases (spans : Array Span) (width : Nat) (w : Window) :
    (w.last + 1 < spans.size ∧ fits spans width ⟨w.first, w.last + 1⟩ = true ∧
        growEnd spans width w = ⟨w.first, w.last + 1⟩) ∨
      ((w.last + 1 < spans.size → fits spans width ⟨w.first, w.last + 1⟩ = false) ∧
        growEnd spans width w = w) := by
  rw [growEnd]
  split
  · next h => exact .inl ⟨h.1, h.2, rfl⟩
  · next h => exact .inr ⟨fun hlt => by simpa using fun hfits => h ⟨hlt, hfits⟩, rfl⟩

theorem Window.Within.growStart (h : w.Within spans) : (growStart spans width w).Within spans := by
  rcases growStart_cases spans width w with ⟨hpos, -, heq⟩ | ⟨-, heq⟩
  · rw [heq]
    exact ⟨Nat.le_trans (Nat.sub_le _ _) h.first_le_last, h.last_lt⟩
  · rw [heq]
    exact h

theorem Window.Within.growOnce (h : w.Within spans) : (growOnce spans width w).Within spans := by
  rw [Snippet.growOnce]
  rcases growEnd_cases spans width (Snippet.growStart spans width w) with ⟨hlt, -, heq⟩ | ⟨-, heq⟩
  · rw [heq]
    exact ⟨Nat.le_succ_of_le h.growStart.first_le_last, hlt⟩
  · rw [heq]
    exact h.growStart

/-- A window that has grown is still narrow enough. -/
theorem fits_growOnce (hfits : fits spans width w = true) :
    fits spans width (growOnce spans width w) = true := by
  rw [growOnce]
  rcases growEnd_cases spans width (growStart spans width w) with ⟨-, hwider, heq⟩ | ⟨-, heq⟩
  · rw [heq]
    exact hwider
  · rw [heq]
    rcases growStart_cases spans width w with ⟨-, hwider, heq⟩ | ⟨-, heq⟩
    · rw [heq]
      exact hwider
    · rw [heq]
      exact hfits

/-- If growing by one span changes nothing, no span more fits. -/
theorem full_of_growOnce (h : w.Within spans) (hfits : fits spans width w = true)
    (hstop : ¬((growOnce spans width w).first < w.first ∨
      (w.last < (growOnce spans width w).last ∧ (growOnce spans width w).last < spans.size))) :
    w.Full spans width := by
  have hend := growOnce_contains spans width w
  rw [growOnce] at hstop hend
  rcases growStart_cases spans width w with ⟨hpos, -, heq⟩ | ⟨hstart, heq⟩
  · -- a span more at the start would be seen
    rw [heq] at hstop
    rcases growEnd_cases spans width ⟨w.first - 1, w.last⟩ with ⟨-, -, heq'⟩ | ⟨-, heq'⟩
    · rw [heq'] at hstop
      exact absurd (.inl (show w.first - 1 < w.first by omega)) hstop
    · rw [heq'] at hstop
      exact absurd (.inl (show w.first - 1 < w.first by omega)) hstop
  · rw [heq] at hstop
    rcases growEnd_cases spans width w with ⟨hlt, -, heq'⟩ | ⟨hend, -⟩
    · rw [heq'] at hstop
      exact absurd (.inr ⟨Nat.lt_succ_self _, hlt⟩) hstop
    · exact ⟨h, fits_iff.1 hfits, fun hpos => fits_eq_false_iff.1 (hstart hpos),
        fun hlt => fits_eq_false_iff.1 (hend hlt)⟩

/-- Growing ends with a window that holds what it began with, and no span more fits. -/
theorem grow_spec (h : w.Within spans) (hfits : fits spans width w = true) :
    (grow spans width w).Contains w ∧ (grow spans width w).Full spans width := by
  fun_induction grow spans width w with
  | case1 w hgrows ih =>
      obtain ⟨hcontains, hfull⟩ := ih h.growOnce (fits_growOnce hfits)
      have honce := growOnce_contains spans width w
      exact ⟨⟨Nat.le_trans hcontains.1 honce.1, Nat.le_trans honce.2 hcontains.2⟩, hfull⟩
  | case2 w hstop =>
      exact ⟨⟨Nat.le_refl _, Nat.le_refl _⟩, full_of_growOnce h hfits hstop⟩

/-! ### The window that is shown -/

/-- Where the search starts: the cluster, or the first span if none of the terms is there. -/
def start (spans : Array Span) (terms : List String) : Window :=
  (cluster? spans.toList terms).getD ⟨0, 0⟩

/-- The window that is shown when the search starts at `s`. -/
def windowFrom (spans : Array Span) (width : Nat) (s : Window) : Option Window :=
  let cut := cutAt spans width s.first s.last
  if fits spans width cut then some (grow spans width cut)
  else (nearestFit? spans width cut.first).map fun i => grow spans width ⟨i, i⟩

theorem window?_eq (spans : Array Span) (width : Nat) (terms : List String) :
    window? spans width terms = windowFrom spans width (start spans terms) :=
  rfl

/-- Either no single span fits, or a window is shown that no span more fits into. It holds the start if
that fits, and at least its first span if that fits. -/
theorem windowFrom_cases (width : Nat) (hw : w.Within spans) :
    (windowFrom spans width w = none ∧ ∀ i, i < spans.size → fits spans width ⟨i, i⟩ = false) ∨
      ∃ v, windowFrom spans width w = some v ∧ v.Full spans width ∧
        (fits spans width w = true → v.Contains w) ∧
        (fits spans width ⟨w.first, w.first⟩ = true → v.first ≤ w.first ∧ w.first ≤ v.last) := by
  obtain ⟨first, last⟩ := w
  obtain ⟨hfirst, hcut, hlast, hstop⟩ := cutAt_spec spans width hw.first_le_last
  have hwithin : (cutAt spans width first last).Within spans := hw.cutAt
  rw [windowFrom]
  split
  · next hfits =>
      obtain ⟨hcontains, hfull⟩ := grow_spec hwithin hfits
      refine .inr ⟨_, rfl, hfull, fun hwhole => ?_, fun _ => ?_⟩
      · rw [cutAt_of_fits hwhole] at hcontains ⊢
        exact hcontains
      · exact ⟨Nat.le_trans hcontains.1 (Nat.le_of_eq hfirst), Nat.le_trans hcut hcontains.2⟩
  · next hwide =>
      -- nothing is left but the first span, and it does not fit
      have hsingle := hstop.resolve_left hwide
      rw [hsingle] at hwide ⊢
      rcases nearestFit?_cases spans width first with ⟨hnone, hall⟩ | ⟨i, hi, hin, hfits⟩
      · rw [hnone]
        exact .inl ⟨rfl, hall⟩
      · rw [hi]
        have hgrown := grow_spec (w := ⟨i, i⟩) ⟨Nat.le_refl _, hin⟩ hfits
        refine .inr ⟨_, rfl, hgrown.2, fun hwhole => ?_, fun hfits => absurd hfits hwide⟩
        rw [cutAt_of_fits hwhole] at hsingle
        exact absurd (hsingle ▸ hwhole) hwide

/-! ### Spans in order -/

/-- The spans start and stop in the order in which they stand, and none is empty. -/
structure Ordered (spans : Array Span) : Prop where
  start_le {i j : Nat} {a b : Span} : i ≤ j → spans[i]? = some a → spans[j]? = some b →
    a.start.char ≤ b.start.char
  stop_le {i j : Nat} {a b : Span} : i ≤ j → spans[i]? = some a → spans[j]? = some b →
    a.stop.char ≤ b.stop.char
  start_lt_stop {i : Nat} {a : Span} : spans[i]? = some a → a.start.char < a.stop.char

theorem Window.Within.getElem? (h : w.Within spans) :
    ∃ a b, spans[w.first]? = some a ∧ spans[w.last]? = some b ∧
      w.width spans = b.stop.char - a.start.char := by
  have hfirst : w.first < spans.size := Nat.lt_of_le_of_lt h.first_le_last h.last_lt
  have hlast : w.last < spans.size := h.last_lt
  refine ⟨spans[w.first], spans[w.last], Array.getElem?_eq_getElem hfirst,
    Array.getElem?_eq_getElem hlast, ?_⟩
  rw [Window.width, Array.getElem?_eq_getElem hfirst, Array.getElem?_eq_getElem hlast]

namespace Ordered

/-- A window is not narrower than one that it holds. -/
theorem width_le (ho : Ordered spans) (hv : v.Within spans) (hw : w.Within spans)
    (h : w.Contains v) : v.width spans ≤ w.width spans := by
  obtain ⟨a, b, ha, hb, hwidth⟩ := hv.getElem?
  obtain ⟨a', b', ha', hb', hwidth'⟩ := hw.getElem?
  have hstart := ho.start_le h.1 ha' ha
  have hstop := ho.stop_le h.2 hb hb'
  rw [hwidth, hwidth']
  omega

/-- No window is without width. -/
theorem width_pos (ho : Ordered spans) (h : w.Within spans) : 0 < w.width spans := by
  obtain ⟨a, b, ha, hb, hwidth⟩ := h.getElem?
  have hstart := ho.start_lt_stop ha
  have hstop := ho.stop_le h.first_le_last ha hb
  rw [hwidth]
  omega

/-- A window is shown unless no single span fits. -/
theorem windowFrom_eq_none_iff (ho : Ordered spans) (hw : w.Within spans) :
    windowFrom spans width w = none ↔
      ∀ i, i < spans.size → width < Window.width spans ⟨i, i⟩ := by
  rcases windowFrom_cases width hw with ⟨hnone, hall⟩ | ⟨v, hsome, hfull, -⟩
  · simp only [hnone, true_iff]
    exact fun i hi => fits_eq_false_iff.1 (hall i hi)
  · rw [hsome]
    refine iff_of_false (by simp) fun hall => ?_
    have hfirst : v.first < spans.size :=
      Nat.lt_of_le_of_lt hfull.within.first_le_last hfull.within.last_lt
    have hsingle := ho.width_le (v := ⟨v.first, v.first⟩) ⟨Nat.le_refl _, hfirst⟩ hfull.within
      ⟨Nat.le_refl _, hfull.within.first_le_last⟩
    exact absurd (Nat.lt_of_lt_of_le (hall v.first hfirst) hsingle) (Nat.not_lt.2 hfull.width_le)

/-! ### Every width can be measured -/

theorem measuredWidth_eq (ho : Ordered spans) (h : w.Within spans) :
    measuredWidth spans w = .ok (w.width spans) := by
  obtain ⟨a, b, ha, hb, hwidth⟩ := h.getElem?
  have hstart := ho.start_lt_stop ha
  have hstop := ho.stop_le h.first_le_last ha hb
  rw [measuredWidth, ha, hb, hwidth]
  exact if_pos (by omega)

theorem measuredFits_eq (ho : Ordered spans) (h : w.Within spans) :
    measuredFits spans width w = .ok (fits spans width w) := by
  rw [measuredFits, ho.measuredWidth_eq h]
  rfl

/-- All windows of the cut are there, so each of them can be measured. -/
theorem measuredCut_eq (ho : Ordered spans) {first last : Nat} (hle : first ≤ last)
    (hlt : last < spans.size) :
    measuredCut spans width first last = .ok (cutAt spans width first last) := by
  induction last with
  | zero => rfl
  | succ last ih =>
      rw [measuredCut, cutAt]
      by_cases hfirst : first < last + 1
      · rw [if_pos hfirst, ho.measuredFits_eq ⟨hle, hlt⟩, ok_bind]
        cases hfits : fits spans width ⟨first, last + 1⟩ with
        | true => simp
        | false => simpa [hfirst] using ih (by omega) (by omega)
      · rw [if_neg hfirst, if_neg fun h => hfirst h.1]

instance : Inhabited Window :=
  ⟨⟨0, 0⟩⟩

theorem measuredNearest?_eq (ho : Ordered spans) (place : Nat) :
    measuredNearest? spans width place = .ok (nearestFit? spans width place) := by
  have hfilter : (List.range spans.size).filterM (fun i => measuredFits spans width ⟨i, i⟩) =
      .ok ((List.range spans.size).filter fun i => fits spans width ⟨i, i⟩) := by
    refine filterM_eq_ok fun i hi => ?_
    exact ho.measuredFits_eq ⟨Nat.le_refl _, List.mem_range.1 hi⟩
  rw [measuredNearest?, hfilter]
  rfl

/-- The window before the first span is not looked at, so each one can be measured. -/
theorem measuredGrowStart_eq (ho : Ordered spans) (h : w.Within spans) :
    measuredGrowStart spans width w = .ok (growStart spans width w) := by
  rw [measuredGrowStart, growStart]
  by_cases hpos : 0 < w.first
  · have hwithin : Window.Within spans ⟨w.first - 1, w.last⟩ :=
      ⟨Nat.le_trans (Nat.sub_le _ _) h.first_le_last, h.last_lt⟩
    rw [if_pos hpos, ho.measuredFits_eq hwithin, ok_bind]
    cases hfits : fits spans width ⟨w.first - 1, w.last⟩ with
    | true => simp [hpos]
    | false => simp
  · rw [if_neg hpos, if_neg fun h => hpos h.1]

theorem measuredGrowEnd_eq (ho : Ordered spans) (h : w.Within spans) :
    measuredGrowEnd spans width w = .ok (growEnd spans width w) := by
  rw [measuredGrowEnd, growEnd]
  by_cases hlt : w.last + 1 < spans.size
  · have hwithin : Window.Within spans ⟨w.first, w.last + 1⟩ :=
      ⟨Nat.le_succ_of_le h.first_le_last, hlt⟩
    rw [if_pos hlt, ho.measuredFits_eq hwithin, ok_bind]
    cases hfits : fits spans width ⟨w.first, w.last + 1⟩ with
    | true => simp [hlt]
    | false => simp
  · rw [if_neg hlt, if_neg fun h => hlt h.1]

theorem measuredGrowOnce_eq (ho : Ordered spans) (h : w.Within spans) :
    measuredGrowOnce spans width w = .ok (growOnce spans width w) := by
  rw [measuredGrowOnce, ho.measuredGrowStart_eq h, ok_bind, growOnce]
  exact ho.measuredGrowEnd_eq h.growStart

/-- A window can be measured at every step of its growth. -/
theorem measuredGrow_eq (ho : Ordered spans) (h : w.Within spans) :
    measuredGrow spans width w = .ok (grow spans width w) := by
  -- the measured growth is unfolded once, by what the window grows to
  have hunfold {w : Window} (h : w.Within spans) : measuredGrow spans width w =
      if (growOnce spans width w).first < w.first ∨
          (w.last < (growOnce spans width w).last ∧ (growOnce spans width w).last < spans.size) then
        measuredGrow spans width (growOnce spans width w)
      else .ok w := by
    have honce : measuredGrowOnce spans width w = _ := ho.measuredGrowOnce_eq h
    rw [measuredGrow]
    split
    · next hnone =>
        rw [honce] at hnone
        cases hnone
    · next next hsome =>
        rw [honce, Except.ok.injEq] at hsome
        rw [hsome]
  fun_induction grow spans width w with
  | case1 w hgrows ih => rw [hunfold h, if_pos hgrows, ih h.growOnce]
  | case2 w hstop => rw [hunfold h, if_neg hstop]

/-- A search for a window that starts inside the spans measures what can be measured. -/
theorem measuredWindow?_eq (ho : Ordered spans) (hstart : (start spans terms).Within spans) :
    measuredWindow? spans width terms = .ok (window? spans width terms) := by
  have hwithin : (cutAt spans width (start spans terms).first (start spans terms).last).Within spans :=
    hstart.cutAt
  rw [window?_eq, windowFrom]
  unfold measuredWindow?
  show (measuredCut spans width (start spans terms).first (start spans terms).last >>= _) = _
  rw [ho.measuredCut_eq hstart.first_le_last hstart.last_lt, ok_bind, ho.measuredFits_eq hwithin,
    ok_bind]
  split
  · rw [ho.measuredGrow_eq hwithin]
    rfl
  · rw [ho.measuredNearest?_eq, ok_bind]
    -- the cut window is too wide: the nearest span that fits takes its place
    rcases nearestFit?_cases spans width
      (cutAt spans width (start spans terms).first (start spans terms).last).first with
      ⟨hnone, -⟩ | ⟨i, hi, hlt, -⟩
    · rw [hnone]
      rfl
    · have hsingle : Window.Within spans ⟨i, i⟩ := ⟨Nat.le_refl _, hlt⟩
      rw [hi]
      show (measuredGrow spans width ⟨i, i⟩ >>= _) = _
      rw [ho.measuredGrow_eq hsingle]
      rfl

end Ordered

end Concordance.Snippet
