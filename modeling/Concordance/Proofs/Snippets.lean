import Concordance.Proofs.Clusters
import Concordance.Proofs.Collapsing
import Concordance.Proofs.SnippetWindows
import Concordance.Proofs.Terms

/-!
# What a snippet shows

A window that no span more fits into begins and ends where the text can be cut: a span more of the same
stretch would cost nothing. So the part of the text that it covers has the terms of the window and no
others, and collapsing its white space keeps them. The window holds the cluster if that fits, and with it
every wanted term that the text has.
-/

namespace Concordance

open Text

variable [CharacterTable] {config : TokenizerConfig} {text : String}

/-! ### Spans in order -/

namespace TokenizerConfig

/-- A span starts and stops with the stretch of its term. -/
theorem exists_placed {i : Nat} {span : Span} (h : (config.spans text)[i]? = some span) :
    ∃ item, (config.placed .start text.toList)[i]? = some item ∧ span.start = item.2.start ∧
      span.stop = item.2.stop := by
  rw [getElem?_spans] at h
  obtain ⟨item, hitem, rfl⟩ := Option.map_eq_some_iff.1 h
  exact ⟨item, hitem, rfl, rfl⟩

/-- The spans of a text stand in the order of the text. -/
theorem start_le_and_stop_le {i j : Nat} {a b : Span} (hij : i ≤ j)
    (ha : (config.spans text)[i]? = some a) (hb : (config.spans text)[j]? = some b) :
    a.start.char ≤ b.start.char ∧ a.stop.char ≤ b.stop.char := by
  rcases Nat.eq_or_lt_of_le hij with rfl | hlt
  · obtain rfl : a = b := Option.some.inj (ha.symm.trans hb)
    exact ⟨Nat.le_refl _, Nat.le_refl _⟩
  · obtain ⟨item, hitem, hstart, hstop⟩ := exists_placed ha
    obtain ⟨other, hother, hstart', hstop'⟩ := exists_placed hb
    obtain ⟨hi, rfl⟩ := List.getElem?_eq_some_iff.1 hitem
    obtain ⟨hj, rfl⟩ := List.getElem?_eq_some_iff.1 hother
    rw [hstart, hstop, hstart', hstop']
    exact List.pairwise_iff_getElem.1 (pairwise_placed .start text.toList) i j hi hj hlt

/-- The spans of a text stand in it one behind the other. -/
theorem ordered_spans (config : TokenizerConfig) (text : String) :
    Snippet.Ordered (config.spans text).toArray where
  start_le hij ha hb := by
    rw [List.getElem?_toArray] at ha hb
    exact (start_le_and_stop_le hij ha hb).1
  stop_le hij ha hb := by
    rw [List.getElem?_toArray] at ha hb
    exact (start_le_and_stop_le hij ha hb).2
  start_lt_stop ha := by
    rw [List.getElem?_toArray] at ha
    obtain ⟨item, hitem, hstart, hstop⟩ := exists_placed ha
    rw [hstart, hstop]
    exact (bounds_of_mem_placed (List.mem_of_getElem? hitem)).2.1

/-- A stretch with terms has characters. -/
theorem Stretch.word_ne_nil {before word : List Char} {i : Nat}
    (hle : (config.termsIn before).length ≤ i) (hlt : i < (config.termsIn (before ++ word)).length) :
    word ≠ [] := by
  rintro rfl
  rw [List.append_nil] at hlt
  exact Nat.not_lt.2 hle hlt

/-- From the start of one stretch to the stop of another, there are runs at both ends. -/
theorem Stretch.exists_between {cs before word rest front word' after : List Char}
    (hfirst : Stretch config .start cs before word rest) (hword : word ≠ [])
    (hlast : Stretch config .start cs front word' after) (hword' : word' ≠ [])
    (hlt : before.length < (front ++ word').length) :
    ∃ part, before ++ part = front ++ word' ∧
      ∃ hne : part ≠ [], isRunChar (part.head hne) = true ∧ isRunChar (part.getLast hne) = true := by
  have hbefore : before <+: cs := by
    rw [hfirst.text_eq, List.append_assoc]
    exact List.prefix_append _ _
  have hfront : front ++ word' <+: cs := by
    rw [hlast.text_eq]
    exact List.prefix_append _ _
  obtain ⟨part, hpart⟩ := List.prefix_of_prefix_length_le hbefore hfront (Nat.le_of_lt hlt)
  have hne : part ≠ [] := by
    rintro rfl
    rw [← hpart, List.append_nil] at hlt
    exact Nat.lt_irrefl _ hlt
  refine ⟨part, hpart, hne, ?_, ?_⟩
  · -- the part begins as the first stretch does
    have hsame : word ++ rest = part ++ after := by
      have htext := hfirst.text_eq.symm.trans hlast.text_eq
      rw [← hpart, List.append_assoc, List.append_assoc] at htext
      exact List.append_cancel_left htext
    obtain ⟨c, word, rfl⟩ := List.exists_cons_of_ne_nil hword
    obtain ⟨d, part, rfl⟩ := List.exists_cons_of_ne_nil hne
    rw [List.head_cons, ← (List.cons.inj hsame).1]
    exact hfirst.runChars c List.mem_cons_self
  · -- and ends as the last one does
    have hend : (before ++ part).getLast? = (front ++ word').getLast? := congrArg List.getLast? hpart
    rw [List.getLast?_append_of_ne_nil _ hne, List.getLast?_append_of_ne_nil _ hword',
      List.getLast?_eq_some_getLast hne, List.getLast?_eq_some_getLast hword', Option.some.injEq] at hend
    rw [hend]
    exact hlast.runChars _ (List.getLast_mem hword')

end TokenizerConfig

namespace Snippet

open TokenizerConfig

variable {terms : List String} {width : Nat} {w : Window} {part : List Char}

/-! ### The part of the text that a window covers -/

/-- `part` is what stands in the text from the start of the first span to the stop of the last. -/
def Window.Covers (w : Window) (spans : List Span) (text part : List Char) : Prop :=
  ∃ before after first last, text = before ++ part ++ after ∧
    spans[w.first]? = some first ∧ first.start = Place.start.after before ∧
    spans[w.last]? = some last ∧ last.stop = Place.start.after (before ++ part)

section Covers

omit [CharacterTable]

variable {spans : List Span} {first last : Span}

theorem Window.width_eq {i j : Nat} (hfirst : spans[i]? = some first) (hlast : spans[j]? = some last) :
    Window.width spans.toArray ⟨i, j⟩ = last.stop.char - first.start.char := by
  rw [Window.width, List.getElem?_toArray, List.getElem?_toArray, hfirst, hlast]

theorem Window.Covers.length_eq {text : List Char} (h : w.Covers spans text part) :
    part.length = w.width spans.toArray := by
  obtain ⟨before, after, first, last, -, hfirst, hstart, hlast, hstop⟩ := h
  rw [Window.width_eq hfirst hlast, hstart, hstop, Place.char_start_after, Place.char_start_after,
    List.length_append, Nat.add_sub_cancel_left]

theorem Window.Covers.slice_eq {text : List Char} (h : w.Covers spans text part) :
    ∃ first last, spans[w.first]? = some first ∧ spans[w.last]? = some last ∧
      slice text first.start last.stop = part := by
  obtain ⟨before, after, first, last, htext, hfirst, hstart, hlast, hstop⟩ := h
  refine ⟨first, last, hfirst, hlast, ?_⟩
  rw [slice, htext, hstart, hstop, Place.char_start_after, Place.char_start_after, List.take_left,
    List.drop_left]

end Covers

namespace Window.Full

variable {before word after : List Char}

omit [CharacterTable] in
theorem exists_first {spans : List Span} (h : w.Full spans.toArray width) :
    ∃ first, spans[w.first]? = some first := by
  obtain ⟨first, last, hfirst, -⟩ := h.within.getElem?
  exact ⟨first, by rwa [List.getElem?_toArray] at hfirst⟩

omit [CharacterTable] in
theorem exists_last {spans : List Span} (h : w.Full spans.toArray width) :
    ∃ last, spans[w.last]? = some last := by
  obtain ⟨first, last, -, hlast, -⟩ := h.within.getElem?
  exact ⟨last, by rwa [List.getElem?_toArray] at hlast⟩

/-- A full window begins with the first span of a stretch. -/
theorem length_before (h : w.Full (config.spans text).toArray width)
    (hs : Stretch config .start text.toList before word after)
    (hle : (config.termsIn before).length ≤ w.first)
    (hlt : w.first < (config.termsIn (before ++ word)).length) :
    (config.termsIn before).length = w.first := by
  apply Nat.le_antisymm hle
  by_contra hbefore
  -- the span before would fit, for it has the same stretch
  obtain ⟨a, ha, hstart, -⟩ := hs.spans hle hlt
  obtain ⟨b, hb, hstart', -⟩ := hs.spans (i := w.first - 1) (by omega) (by omega)
  obtain ⟨c, hc⟩ := h.exists_last
  have hwider : width < Window.width (config.spans text).toArray ⟨w.first - 1, w.last⟩ :=
    h.start_lt (by omega)
  have hwidth := h.width_le
  rw [Window.width_eq hb hc, hstart'] at hwider
  rw [Window.width_eq ha hc, hstart] at hwidth
  exact absurd hwider (Nat.not_lt.2 hwidth)

/-- A full window ends with the last span of a stretch. -/
theorem length_behind (h : w.Full (config.spans text).toArray width)
    (hs : Stretch config .start text.toList before word after)
    (hle : (config.termsIn before).length ≤ w.last)
    (hlt : w.last < (config.termsIn (before ++ word)).length) :
    (config.termsIn (before ++ word)).length = w.last + 1 := by
  apply Nat.le_antisymm _ hlt
  by_contra hbehind
  -- the span behind would fit, for it has the same stretch
  obtain ⟨a, ha, -, hstop⟩ := hs.spans hle hlt
  obtain ⟨b, hb, -, hstop'⟩ := hs.spans (i := w.last + 1) (by omega) (by omega)
  obtain ⟨c, hc⟩ := h.exists_first
  have hlt_size : w.last + 1 < (config.spans text).toArray.size := by
    rw [List.size_toArray]
    exact (List.getElem?_eq_some_iff.1 hb).1
  have hwider : width < Window.width (config.spans text).toArray ⟨w.first, w.last + 1⟩ :=
    h.end_lt hlt_size
  have hwidth := h.width_le
  rw [Window.width_eq hc hb, hstop'] at hwider
  rw [Window.width_eq hc ha, hstop] at hwidth
  exact absurd hwider (Nat.not_lt.2 hwidth)

/-- What a full window covers begins and ends inside runs, and its terms are those of the window. -/
theorem exists_part (h : w.Full (config.spans text).toArray width) :
    ∃ part, w.Covers (config.spans text) text.toList part ∧
      (∃ hne : part ≠ [], isRunChar (part.head hne) = true ∧ isRunChar (part.getLast hne) = true) ∧
      config.termsIn part =
        ((config.termsIn text.toList).drop w.first).take (w.last + 1 - w.first) := by
  have hlast_lt : w.last < (config.termsIn text.toList).length := by
    have hlt := h.within.last_lt
    rwa [List.size_toArray, length_spans] at hlt
  have hfirst_lt : w.first < (config.termsIn text.toList).length :=
    Nat.lt_of_le_of_lt h.within.first_le_last hlast_lt
  obtain ⟨before, word, rest, hfirst, hle, hlt⟩ := exists_stretch .start text.toList hfirst_lt
  obtain ⟨front, word', after, hlast, hle', hlt'⟩ := exists_stretch .start text.toList hlast_lt
  obtain ⟨first, hfirst_span, hstart, -⟩ := hfirst.spans hle hlt
  obtain ⟨last, hlast_span, -, hstop⟩ := hlast.spans hle' hlt'
  -- the window has a width, so the first stretch starts before the last one stops
  have hshorter : before.length < (front ++ word').length := by
    have hpos := (ordered_spans config text).width_pos h.within
    rw [Window.width_eq hfirst_span hlast_span, hstart, hstop, Place.char_start_after,
      Place.char_start_after] at hpos
    omega
  obtain ⟨part, hpart, hends⟩ := hfirst.exists_between (Stretch.word_ne_nil hle hlt) hlast
    (Stretch.word_ne_nil hle' hlt') hshorter
  have htext : text.toList = before ++ part ++ after := by rw [hlast.text_eq, ← hpart]
  refine ⟨part, ⟨before, after, first, last, htext, hfirst_span, hstart, hlast_span, ?_⟩, hends, ?_⟩
  · rw [hpart, hstop]
  · have hbefore := h.length_before hfirst hle hlt
    have hbehind := h.length_behind hlast hle' hlt'
    have hterms : config.termsIn text.toList =
        config.termsIn before ++ (config.termsIn part ++ config.termsIn after) := by
      rw [htext, List.append_assoc, hfirst.cutsBehind, hlast.cutsBefore]
    have hlength : (config.termsIn part).length = w.last + 1 - w.first := by
      rw [← hpart, hfirst.cutsBehind, List.length_append] at hbehind
      omega
    rw [hterms, ← hbefore, List.drop_left, hbefore, ← hlength, List.take_left]

end Window.Full

/-! ### The snippet that is shown -/

/-- The snippet shows the window `w`, which covers `part`, with one space for all white space together. -/
structure Shows (config : TokenizerConfig) (text : String) (terms : List String) (width : Nat)
    (w : Window) (part : List Char) : Prop where
  window?_eq : window? (config.spans text).toArray width terms = some w
  covers : w.Covers (config.spans text) text.toList part
  snippet_eq : snippet config text terms width = String.ofList (collapse part)

omit [CharacterTable] in
/-- The search for a window starts inside the spans. -/
theorem start_within {spans : List Span} (hne : spans ≠ []) (terms : List String) :
    (start spans.toArray terms).Within spans.toArray := by
  rw [start, List.toList_toArray]
  cases hcluster : cluster? spans terms with
  | none =>
      refine ⟨Nat.le_refl _, ?_⟩
      rw [List.size_toArray]
      exact List.length_pos_iff.2 hne
  | some c =>
      have hleast := isLeast_of_cluster? hcluster
      refine ⟨hleast.first_le_last, ?_⟩
      rw [List.size_toArray]
      exact hleast.last_lt

/-- A window that is found is full. -/
theorem full_of_window? (hne : config.spans text ≠ [])
    (hw : window? (config.spans text).toArray width terms = some w) :
    w.Full (config.spans text).toArray width := by
  rw [window?_eq] at hw
  rcases windowFrom_cases width (start_within hne terms) with ⟨hnone, -⟩ | ⟨v, hv, hfull, -⟩
  · rw [hnone] at hw
    cases hw
  · obtain rfl : v = w := Option.some.inj (hv.symm.trans hw)
    exact hfull

/-- Every width that the search for a snippet asks for can be measured. -/
theorem measuredSnippet_eq (config : TokenizerConfig) (text : String) (terms : List String) (width : Nat) :
    measuredSnippet config text terms width = .ok (snippet config text terms width) := by
  rw [measuredSnippet, snippet]
  split
  · rfl
  · next hsome =>
      have hne : config.spans text ≠ [] := by
        intro hnil
        rw [hnil] at hsome
        simp at hsome
      have ho := ordered_spans config text
      have hstart := start_within hne terms
      rw [ho.measuredWindow?_eq hstart, ok_bind]
      cases hw : window? (config.spans text).toArray width terms with
      | none => rfl
      | some w =>
          -- the ends of the window are spans, so the last branch is not taken
          obtain ⟨a, b, ha, hb, -⟩ := (full_of_window? hne hw).within.getElem?
          simp only [ha, hb]
          rfl

theorem snippet_of_no_spans (h : width = 0 ∨ config.spans text = []) :
    snippet config text terms width = "" := by
  rw [snippet]
  apply if_pos
  rcases h with rfl | hnil
  · rfl
  · rw [hnil, Bool.or_eq_true]
    exact .inr rfl

theorem snippet_of_window?_eq_none (h : window? (config.spans text).toArray width terms = none) :
    snippet config text terms width = "" := by
  rw [snippet, h]
  exact ite_self ""

/-- A snippet is what its window covers, its words joined by single spaces. -/
theorem snippet_of_covers (hwidth : width ≠ 0) (hne : config.spans text ≠ [])
    (hw : window? (config.spans text).toArray width terms = some w)
    (hcovers : w.Covers (config.spans text) text.toList part) :
    snippet config text terms width = String.ofList (joinWith [' '] (words part)) := by
  have hsome : ¬(decide (width = 0) || (config.spans text).toArray.isEmpty) = true := by
    simp [hwidth, hne]
  obtain ⟨first, last, hfirst, hlast, hslice⟩ := hcovers.slice_eq
  rw [← List.getElem?_toArray] at hfirst hlast
  rw [snippet, if_neg hsome, hw]
  simp only [hfirst, hlast, hslice]

/-- A full window that is found is shown, with its terms. -/
theorem Window.Full.shows (hblank : ∀ c, isBlank c = true → isWordChar c = false)
    (h : w.Full (config.spans text).toArray width)
    (hw : window? (config.spans text).toArray width terms = some w) :
    snippet config text terms width ≠ "" ∧
      config.terms (snippet config text terms width) =
        (((config.spans text).drop w.first).take (w.last + 1 - w.first)).map Span.term ∧
      ∃ part, Shows config text terms width w part := by
  have hne : config.spans text ≠ [] := by
    intro hnil
    have hlt := h.within.last_lt
    rw [hnil] at hlt
    exact absurd hlt (Nat.not_lt_zero _)
  have hwidth : width ≠ 0 := by
    have hpos := (ordered_spans config text).width_pos h.within
    have hle := h.width_le
    omega
  obtain ⟨part, hcovers, ⟨hpart, hhead, hlast⟩, hterms⟩ := h.exists_part
  have hplain {c : Char} (hc : isRunChar c = true) : isBlank c = false := by
    by_contra hnot
    rw [isRunChar_of_isBlank hblank (by simpa using hnot)] at hc
    cases hc
  have hsnippet : snippet config text terms width = String.ofList (collapse part) := by
    rw [snippet_of_covers hwidth hne hw hcovers,
      joinWith_words_eq_collapse hpart (hplain hhead) (hplain hlast)]
  refine ⟨?_, ?_, part, hw, hcovers, hsnippet⟩
  · rw [hsnippet]
    intro hempty
    have hnil := congrArg String.toList hempty
    rw [String.toList_ofList] at hnil
    exact collapse_ne_nil hpart (hplain hhead) hnil
  · have hall : (config.spans text).map Span.term = (config.termsIn text.toList).map String.ofList :=
      terms_eq_map_termsIn text
    rw [terms_eq_map_termsIn, hsnippet, String.toList_ofList, termsIn_collapse hblank, hterms,
      List.map_take, List.map_drop, List.map_take, List.map_drop, hall]

/-! ### The cluster is shown -/

section Cluster

variable {c : Window}

/-- The window that is shown holds the cluster if that fits, and its first span if that fits. -/
theorem window?_of_cluster? (hc : cluster? (config.spans text) terms = some c) :
    (c.width (config.spans text).toArray ≤ width → ∃ w : Window,
        window? (config.spans text).toArray width terms = some w ∧
          w.Full (config.spans text).toArray width ∧ w.Contains c) ∧
      (Window.width (config.spans text).toArray ⟨c.first, c.first⟩ ≤ width → ∃ w : Window,
        window? (config.spans text).toArray width terms = some w ∧
          w.Full (config.spans text).toArray width ∧ w.first ≤ c.first ∧ c.first ≤ w.last) := by
  have ho := ordered_spans config text
  have hleast := isLeast_of_cluster? hc
  have hwithin : c.Within (config.spans text).toArray := ⟨hleast.first_le_last, by
    rw [List.size_toArray]
    exact hleast.last_lt⟩
  have hfirst : Window.Within (config.spans text).toArray ⟨c.first, c.first⟩ :=
    ⟨Nat.le_refl _, Nat.lt_of_le_of_lt hwithin.first_le_last hwithin.last_lt⟩
  have hstart : start (config.spans text).toArray terms = c := by
    rw [start, List.toList_toArray, hc]
    rfl
  rcases windowFrom_cases width hwithin with ⟨-, hwide⟩ | ⟨w, hw, hfull, hwhole, hsingle⟩
  · -- the first span of the cluster is no wider than the cluster
    have hlt := fits_eq_false_iff.1 (hwide c.first hfirst.last_lt)
    have hle := ho.width_le hfirst hwithin ⟨Nat.le_refl _, hleast.first_le_last⟩
    constructor
    · intro hfits
      exact absurd (Nat.le_trans hle hfits) (Nat.not_le.2 hlt)
    · intro hfits
      exact absurd hfits (Nat.not_le.2 hlt)
  · rw [window?_eq, hstart]
    constructor
    · intro hfits
      exact ⟨w, hw, hfull, hwhole (fits_iff.2 hfits)⟩
    · intro hfits
      exact ⟨w, hw, hfull, hsingle (fits_iff.2 hfits)⟩

omit [CharacterTable] in
/-- The terms of a window are those of its spans. -/
theorem mem_terms_of_holds {spans : List Span} {t : String} (hholds : c.Holds spans t)
    (hcontains : w.Contains c) :
    t ∈ ((spans.drop w.first).take (w.last + 1 - w.first)).map Span.term := by
  obtain ⟨place, span, hfirst, hlast, hspan, rfl⟩ := hholds
  have hle := Nat.le_trans hcontains.1 hfirst
  have hge := Nat.le_trans hlast hcontains.2
  have hmem : ((spans.drop w.first).take (w.last + 1 - w.first))[place - w.first]? = some span := by
    rw [List.getElem?_take_of_lt (by omega), List.getElem?_drop, Nat.add_sub_cancel' hle]
    exact hspan
  exact List.mem_map_of_mem (List.mem_of_getElem? hmem)

end Cluster

/-! ### The whole snippet -/

/-- A snippet is empty only if nothing can be shown: there is no width or no span, or none that is narrow
enough. -/
theorem snippet_eq_empty_iff (hblank : ∀ c, isBlank c = true → isWordChar c = false) :
    snippet config text terms width = "" ↔
      width = 0 ∨ config.spans text = [] ∨ ∀ i, i < (config.spans text).length →
        width < Window.width (config.spans text).toArray ⟨i, i⟩ := by
  -- with spans to choose from, no window is chosen exactly if each single span is too wide
  have hnothing (hne : config.spans text ≠ []) :
      window? (config.spans text).toArray width terms = none ↔
        ∀ i, i < (config.spans text).length →
          width < Window.width (config.spans text).toArray ⟨i, i⟩ := by
    rw [window?_eq, (ordered_spans config text).windowFrom_eq_none_iff (start_within hne terms),
      List.size_toArray]
  constructor
  · intro hempty
    by_contra hsome
    obtain ⟨-, hsome⟩ := not_or.1 hsome
    obtain ⟨hne, hfits⟩ := not_or.1 hsome
    cases hw : window? (config.spans text).toArray width terms with
    | none => exact hfits ((hnothing hne).1 hw)
    | some w => exact ((full_of_window? hne hw).shows hblank hw).1 hempty
  · rintro (hzero | hnil | hwide)
    · exact snippet_of_no_spans (.inl hzero)
    · exact snippet_of_no_spans (.inr hnil)
    · by_cases hne : config.spans text = []
      · exact snippet_of_no_spans (.inr hne)
      · exact snippet_of_window?_eq_none ((hnothing hne).2 hwide)

/-- A snippet is a run of whole terms, as long as the width allows on either side, and every width on the
way to it can be measured. It is empty only if nothing can be shown. -/
theorem snippet_whole_terms (hblank : ∀ c, isBlank c = true → isWordChar c = false)
    (config : TokenizerConfig) (text : String) (terms : List String) (width : Nat) :
    measuredSnippet config text terms width = .ok (snippet config text terms width) ∧
      (snippet config text terms width = "" ↔
        width = 0 ∨ config.spans text = [] ∨ ∀ i, i < (config.spans text).length →
          width < Window.width (config.spans text).toArray ⟨i, i⟩) ∧
      (snippet config text terms width ≠ "" → ∃ w part,
        Shows config text terms width w part ∧ w.Full (config.spans text).toArray width ∧
          part.length ≤ width ∧ (snippet config text terms width).length ≤ width ∧
          config.terms (snippet config text terms width) =
            (((config.spans text).drop w.first).take (w.last + 1 - w.first)).map Span.term) := by
  refine ⟨measuredSnippet_eq config text terms width, snippet_eq_empty_iff hblank, ?_⟩
  intro hshown
  have hne : config.spans text ≠ [] := fun hnil => hshown (snippet_of_no_spans (.inr hnil))
  cases hw : window? (config.spans text).toArray width terms with
  | none => exact absurd (snippet_of_window?_eq_none hw) hshown
  | some w =>
      have hfull := full_of_window? hne hw
      obtain ⟨-, hterms, part, hshows⟩ := hfull.shows hblank hw
      have hlength : part.length ≤ width := by
        rw [hshows.covers.length_eq]
        exact hfull.width_le
      refine ⟨w, part, hshows, hfull, hlength, ?_, hterms⟩
      rw [hshows.snippet_eq, String.length_ofList]
      exact Nat.le_trans (length_collapse_le part) hlength

end Snippet

end Concordance

namespace Concordance.Unicode

open Text Snippet

theorem snippet_half : snippet folding "½" ["2"] 1 = "½" := by
  rw [snippet, spans_half]
  decide +kernel

/-- The sign for a half is shown for either of its terms, and both are found in it again. -/
theorem snippet_whole_terms_sample :
    (∀ c, isBlank c = true → isWordChar c = false) ∧ snippet folding "½" ["2"] 1 ≠ "" ∧
      ∃ w part, Shows folding "½" ["2"] 1 w part ∧ w.Full (folding.spans "½").toArray 1 ∧
        part.length ≤ 1 ∧ (snippet folding "½" ["2"] 1).length ≤ 1 ∧
        folding.terms (snippet folding "½" ["2"] 1) =
          (((folding.spans "½").drop w.first).take (w.last + 1 - w.first)).map Span.term := by
  have hblank : ∀ c, isBlank c = true → isWordChar c = false := fun c => isWordChar_of_isBlank
  have hshown : snippet folding "½" ["2"] 1 ≠ "" := by
    rw [snippet_half]
    decide
  obtain ⟨-, -, hshows⟩ := snippet_whole_terms hblank folding "½" ["2"] 1
  exact ⟨hblank, hshown, hshows hshown⟩

/-! ### The cluster -/

/-- The search for a snippet starts from the leftmost of the shortest windows with all wanted terms that
there are, if there are any, and the snippet shows this window if it fits, and at least its first span if
that fits. -/
theorem cluster_shown (spans : List Span) (terms : List String) :
    (cluster? spans terms = none ↔ ∀ span ∈ spans, span.term ∉ terms) ∧
      (∀ c, cluster? spans terms = some c → c.IsLeast spans terms) ∧
      ∀ (config : TokenizerConfig) (text : String) (width : Nat) (c : Window),
        cluster? (config.spans text) terms = some c →
          (c.width (config.spans text).toArray ≤ width → ∃ w part,
            Shows config text terms width w part ∧ w.Contains c ∧
              ∀ t ∈ terms, t ∈ config.terms text →
                t ∈ config.terms (snippet config text terms width)) ∧
          (Window.width (config.spans text).toArray ⟨c.first, c.first⟩ ≤ width → ∃ w part,
            Shows config text terms width w part ∧ w.first ≤ c.first ∧ c.first ≤ w.last) := by
  refine ⟨cluster?_eq_none_iff, fun c => isLeast_of_cluster?, ?_⟩
  intro config text width c hc
  -- the first two parts are about spans alone; the third needs that a blank is no part of a word
  have hblank : ∀ d, isBlank d = true → isWordChar d = false := fun d => isWordChar_of_isBlank
  obtain ⟨hwhole, hsingle⟩ := window?_of_cluster? hc
  constructor
  · intro hfits
    obtain ⟨w, hw, hfull, hcontains⟩ := hwhole hfits
    obtain ⟨-, hterms, part, hshows⟩ := hfull.shows hblank hw
    refine ⟨w, part, hshows, hcontains, ?_⟩
    intro t ht hmem
    rw [hterms]
    exact mem_terms_of_holds ((isLeast_of_cluster? hc).holdsAll t ht hmem) hcontains
  · intro hfits
    obtain ⟨w, hw, hfull, hinside⟩ := hsingle hfits
    obtain ⟨-, -, part, hshows⟩ := hfull.shows hblank hw
    exact ⟨w, part, hshows, hinside⟩

end Concordance.Unicode
