import Concordance.Proofs.MaximalRuns
import Concordance.Proofs.Terms
import Concordance.Text.Utf8

/-!
# The spans of a text lie side by side

A span has the place of a maximal run without the joiners at its ends. Spans of one run are the pieces of
its folded form and have one place; between spans of two runs there is a separator. Without folding a run
has one term, its lower case, so that every word character of a text lies in one span if no term is too
short to be kept.
-/

namespace Concordance

open Text

/-! ### Places -/

theorem Text.length_encodeChars (cs : List Char) :
    (encodeChars cs).length = (cs.map Char.utf8Size).foldr (· + ·) 0 := by
  induction cs with
  | nil => rfl
  | cons c cs ih =>
      rw [encodeChars, List.flatMap_cons, List.length_append, ← encodeChars, ih,
        String.length_utf8EncodeChar]
      rfl

/-- A place counts the bytes and the characters before it. -/
theorem Place.start_after (cs : List Char) :
    Place.start.after cs = ⟨(encodeChars cs).length, cs.length⟩ := by
  rw [Place.after, Place.start, Nat.zero_add, Nat.zero_add, length_encodeChars]

/-- A character of a text that has not the property of those at its ends lies between them. -/
theorem bounds_of_getElem?_append {p : Char → Bool} {lead word trail : List Char} {i : Nat} {c : Char}
    (hlead : ∀ d ∈ lead, p d = true) (htrail : ∀ d ∈ trail, p d = true)
    (hi : (lead ++ word ++ trail)[i]? = some c) (hc : p c = false) :
    lead.length ≤ i ∧ i < (lead ++ word).length := by
  constructor
  · by_contra hlt
    rw [List.append_assoc, List.getElem?_append_left (Nat.lt_of_not_le hlt)] at hi
    rw [hlead c (List.mem_of_getElem? hi)] at hc
    cases hc
  · by_contra hle
    rw [List.getElem?_append_right (Nat.le_of_not_lt hle)] at hi
    rw [htrail c (List.mem_of_getElem? hi)] at hc
    cases hc

variable [CharacterTable]

theorem isWordChar_of_isRunChar {c : Char} (h : isRunChar c = true) (hjoiner : isJoiner c = false) :
    isWordChar c = true := by
  rwa [isRunChar, hjoiner, Bool.or_false] at h

/-! ### Runs without the joiners at their ends -/

/-- Between `before` and `after`, `word` is a maximal run without the joiners at its ends. -/
structure IsTrimmedRun (before word after : List Char) : Prop where
  run : ∃ front lead trail back, before = front ++ lead ∧ after = trail ++ back ∧
    (∀ c ∈ lead, isJoiner c = true) ∧ (∀ c ∈ trail, isJoiner c = true) ∧
    IsMaximalRun isRunChar front (lead ++ word ++ trail) back
  ne_nil : word ≠ []
  head : isWordChar (word.head ne_nil) = true
  last : isWordChar (word.getLast ne_nil) = true

theorem IsTrimmedRun.isRunChar {before word after : List Char} (h : IsTrimmedRun before word after) :
    ∀ c ∈ word, isRunChar c = true := by
  obtain ⟨front, lead, trail, back, -, -, -, -, hrun⟩ := h.run
  exact fun c hc => hrun.all c (List.mem_append_left _ (List.mem_append_right _ hc))

namespace Run

variable {cs : List Char} {run : Run}

omit [CharacterTable] in
/-- What is left of a run lies within it. -/
theorem bounds_trimmed (run : Run) :
    run.start.char ≤ run.trimmed.start.char ∧ run.trimmed.stop.char ≤ run.stop.char := by
  obtain ⟨back, heq, -⟩ := takeWhile_append_trimBy isJoiner run.chars
  have hlength := congrArg List.length heq
  simp only [List.length_append] at hlength
  simp only [stop, trimmed, Place.char_after]
  omega

/-- A trimmed run is a part of the text at the place that it tells. -/
theorem isTrimmedRun (h : run ∈ runsFrom .start cs) (hne : run.trimmed.chars ≠ []) :
    ∃ before after, cs = before ++ run.trimmed.chars ++ after ∧
      run.trimmed.start = Place.start.after before ∧ IsTrimmedRun before run.trimmed.chars after := by
  obtain ⟨front, back, rfl, hstart, hrun⟩ := exists_of_mem_runsFrom h
  -- the joiners at both ends of the run, which are left out
  obtain ⟨trail, heq, htrail⟩ := takeWhile_append_trimBy isJoiner run.chars
  have hlead : ∀ c ∈ run.chars.takeWhile isJoiner, isJoiner c = true := fun c => List.mem_takeWhile_imp
  have hword : ∀ c ∈ trimBy isJoiner run.chars, isJoiner c = false → isWordChar c = true :=
    fun c hc => isWordChar_of_isRunChar (hrun.all c ((infix_trimBy isJoiner run.chars).subset hc))
  refine ⟨front ++ run.chars.takeWhile isJoiner, trail ++ back, ?_, ?_, ?_, hne, ?_, ?_⟩
  · conv_lhs => rw [heq]
    simp [trimmed]
  · rw [trimmed, hstart, Place.after_after]
  · exact ⟨front, _, trail, back, rfl, rfl, hlead, htrail, by rwa [trimmed, ← heq]⟩
  · exact hword _ (List.head_mem hne) (head_trimBy hne)
  · exact hword _ (List.getLast_mem hne) (getLast_trimBy hne)

/-- A character of a run that is not a joiner lies in what is left of it. -/
theorem mem_trimmed (h : run ∈ runsFrom .start cs) {i : Nat} {c : Char} (hi : cs[i]? = some c)
    (hc : isJoiner c = false) (hle : run.start.char ≤ i) (hlt : i < run.stop.char) :
    run.trimmed.start.char ≤ i ∧ i < run.trimmed.stop.char := by
  obtain ⟨front, back, rfl, hstart, -⟩ := exists_of_mem_runsFrom h
  obtain ⟨trail, heq, htrail⟩ := takeWhile_append_trimBy isJoiner run.chars
  have hlead : ∀ c ∈ run.chars.takeWhile isJoiner, isJoiner c = true := fun c => List.mem_takeWhile_imp
  rw [stop, hstart, Place.char_after, Place.char_start_after] at hlt
  rw [hstart, Place.char_start_after] at hle
  rw [List.append_assoc, List.getElem?_append_right hle, List.getElem?_append_left (by omega), heq] at hi
  have hbounds := bounds_of_getElem?_append hlead htrail hi hc
  simp only [stop, trimmed, hstart, Place.after_after, Place.char_start_after, List.length_append]
    at hbounds ⊢
  omega

end Run

/-! ### The terms of a run -/

section Terms

variable {config : TokenizerConfig} {run : Run} {item : List Char × Run}

/-- A run that is more than joiners gives the terms of its word. -/
theorem TokenizerConfig.mem_termsOfRun_iff :
    item ∈ config.termsOfRun run ↔
      run.trimmed.chars ≠ [] ∧ item.1 ∈ config.termsOfWord run.trimmed.chars ∧ item.2 = run.trimmed := by
  rw [TokenizerConfig.termsOfRun]
  split
  · next hempty => simp [List.isEmpty_iff.1 hempty]
  · next hempty =>
    rw [List.isEmpty_iff] at hempty
    constructor
    · intro h
      obtain ⟨term, hterm, rfl⟩ := List.mem_map.1 h
      exact ⟨hempty, hterm, rfl⟩
    · rintro ⟨-, hterm, hrun⟩
      exact List.mem_map.2 ⟨item.1, hterm, by rw [← hrun]⟩

variable [LawfulCharacters]

open LawfulCharacters

/-- Lower case leaves joiners as they are and makes word characters of word characters. -/
theorem isRunChar_of_mem_lower {word : List Char} (h : ∀ c ∈ word, Text.isRunChar c = true) {d : Char}
    (hd : d ∈ lower word) : Text.isRunChar d = true := by
  obtain ⟨c, hc, hform⟩ := mem_lower hd
  cases hword : isWordChar c with
  | true => rw [Text.isRunChar, isWordChar_of_mem hword hform, Bool.true_or]
  | false =>
    have hjoiner : isJoiner c = true := by simpa [Text.isRunChar, hword] using h c hc
    have hlowered := isLowered_of_isJoiner hjoiner
    rw [lowerForms, if_neg hlowered.1, hlowered.2, List.mem_singleton] at hform
    rw [hform]
    exact h c hc

/-- Without folding, the lower case of a run is the only term that it can have. -/
theorem IsTrimmedRun.termsOfWord_eq {before word after : List Char} (h : IsTrimmedRun before word after)
    (hfolds : config.foldsDiacritics = false) :
    config.termsOfWord word = [lower word].filter config.keeps := by
  have hnone : ∀ c ∈ lower word, (!Text.isRunChar c) = false :=
    fun c hc => by rw [isRunChar_of_mem_lower h.isRunChar hc]; rfl
  have htrim : trimBy isJoiner (lower word) = lower word :=
    trimBy_eq_self (lower_ne_nil h.ne_nil)
      (isJoiner_of_isWordChar (isWordChar_of_mem h.head (head_lower h.ne_nil)))
      (isJoiner_of_isWordChar (isWordChar_of_mem h.last (getLast_lowerAfter h.ne_nil _)))
  rw [TokenizerConfig.termsOfWord, TokenizerConfig.normalize, hfolds, if_neg Bool.false_ne_true,
    splitBy_of_none hnone, List.map_singleton, htrim]

end Terms

/-! ### Spans -/

section Spans

variable {config : TokenizerConfig} {text : String}

theorem TokenizerConfig.exists_of_mem_spans {span : Span} (h : span ∈ config.spans text) :
    ∃ item ∈ config.placed .start text.toList, span.term = String.ofList item.1 ∧
      span.start = item.2.start ∧ span.stop = item.2.stop := by
  obtain ⟨i, hi⟩ := List.mem_iff_getElem?.1 h
  rw [getElem?_spans] at hi
  obtain ⟨item, hitem, rfl⟩ := Option.map_eq_some_iff.1 hi
  exact ⟨item, List.mem_of_getElem? hitem, rfl, rfl, rfl⟩

/-- What every term is. -/
structure IsTerm (config : TokenizerConfig) (term : List Char) : Prop where
  ne_nil : term ≠ []
  minTermLength_le : config.minTermLength.toNat ≤ term.length
  isRunChar : ∀ c ∈ term, isRunChar c = true
  head : isJoiner (term.head ne_nil) = false
  last : isJoiner (term.getLast ne_nil) = false

/-- A settled word is a term. -/
theorem Settled.isTerm {word : List Char} (h : Settled config word) : IsTerm config word := by
  have hkeeps := h.keeps
  rw [TokenizerConfig.keeps, Bool.and_eq_true, decide_eq_true_eq] at hkeeps
  have hne : trimBy isJoiner word ≠ [] := by
    rw [h.trimmed]
    exact h.ne_nil
  refine ⟨h.ne_nil, hkeeps.2, h.isRunChar, ?_, ?_⟩
  · have hhead := head_trimBy hne
    simpa only [h.trimmed] using hhead
  · have hlast := getLast_trimBy hne
    simpa only [h.trimmed] using hlast

/-- The span has a term of `word`, which stands between `before` and `after`, and its place. -/
structure Span.IsTile (config : TokenizerConfig) (before word after : List Char) (span : Span) :
    Prop where
  isTrimmedRun : IsTrimmedRun before word after
  start_eq : span.start = ⟨(encodeChars before).length, before.length⟩
  stop_eq : span.stop = ⟨(encodeChars (before ++ word)).length, (before ++ word).length⟩
  byte_lt : span.start.byte < span.stop.byte
  isTerm : IsTerm config span.term.toList
  term_mem : span.term.toList ∈ config.termsOfWord word
  lowered : config.foldsDiacritics = false → span.term = String.ofList (lower word)

/-- The spans lie in the text side by side. -/
structure Tiles (config : TokenizerConfig) (text : String) (spans : List Span) : Prop where
  position_eq : ∀ i (span : Span), spans[i]? = some span → span.position = UInt32.ofNat i
  isTile : ∀ span ∈ spans, ∃ before word after, text.toList = before ++ word ++ after ∧
    span.IsTile config before word after
  /-- Two spans have one place, which happens under folding only, or the first is before the second. -/
  apart : spans.Pairwise fun a b =>
    (config.foldsDiacritics = true ∧ a.start = b.start ∧ a.stop = b.stop) ∨
      Separates text.toList a.stop.char b.start.char
  /-- If nothing is folded or dropped, every word character lies in one span. -/
  covered : config.foldsDiacritics = false → config.minTermLength.toNat ≤ 1 →
    ∀ (k : Nat) (c : Char), text.toList[k]? = some c → isWordChar c = true →
      ∃! i : Nat, ∃ span : Span, spans[i]? = some span ∧ span.start.char ≤ k ∧ k < span.stop.char

variable [LawfulCharacters]

/-- Every span has its place in the text, with the word that its term comes from. -/
theorem exists_isTile {span : Span} (h : span ∈ config.spans text) :
    ∃ before word after, text.toList = before ++ word ++ after ∧ span.IsTile config before word after := by
  obtain ⟨⟨term, place⟩, hitem, hterm, hstart, hstop⟩ := TokenizerConfig.exists_of_mem_spans h
  obtain ⟨run, hrun, hmem⟩ := List.mem_flatMap.1 hitem
  obtain ⟨hne, hword, rfl⟩ := TokenizerConfig.mem_termsOfRun_iff.1 hmem
  obtain ⟨before, after, heq, hplace, htrimmed⟩ := run.isTrimmedRun hrun hne
  -- the word is not empty, so its span is not either
  have hbytes : 0 < (encodeChars run.trimmed.chars).length := by
    obtain ⟨c, cs, hcs⟩ := List.exists_cons_of_ne_nil hne
    rw [hcs, encodeChars, List.flatMap_cons, List.length_append, String.length_utf8EncodeChar]
    exact Nat.add_pos_left c.utf8Size_pos _
  have hstart' : span.start = ⟨(encodeChars before).length, before.length⟩ := by
    rw [hstart, hplace, Place.start_after]
  have hstop' : span.stop =
      ⟨(encodeChars (before ++ run.trimmed.chars)).length, (before ++ run.trimmed.chars).length⟩ := by
    rw [hstop, Run.stop, hplace, Place.after_after, Place.start_after]
  have hsettled : Settled config term := settled_of_mem_termsOfWord hword
  refine ⟨before, run.trimmed.chars, after, heq, htrimmed, hstart', hstop', ?_, ?_, ?_, ?_⟩
  · rw [hstart', hstop', encodeChars, encodeChars, List.flatMap_append, List.length_append]
    exact Nat.lt_add_of_pos_right hbytes
  · rw [hterm, String.toList_ofList]
    exact hsettled.isTerm
  · rwa [hterm, String.toList_ofList]
  · intro hfolds
    rw [htrimmed.termsOfWord_eq hfolds] at hword
    rw [hterm, List.mem_singleton.1 (List.mem_filter.1 hword).1]

/-- Without folding, a run has its lower case as a term, if that is long enough, and no other. -/
theorem termsOfRun_eq {cs : List Char} {run : Run} (h : run ∈ runsFrom .start cs)
    (hfolds : config.foldsDiacritics = false) :
    config.termsOfRun run =
      ([lower run.trimmed.chars].filter config.keeps).map fun term => (term, run.trimmed) := by
  by_cases hne : run.trimmed.chars = []
  · rw [TokenizerConfig.termsOfRun, if_pos (List.isEmpty_iff.2 hne), hne]
    rfl
  · obtain ⟨before, after, -, -, htrimmed⟩ := run.isTrimmedRun h hne
    rw [TokenizerConfig.termsOfRun, if_neg (by simpa using hne),
      htrimmed.termsOfWord_eq hfolds]

/-- Two terms have one place, which happens under folding only, or a separator between their places. -/
theorem pairwise_placed_apart (config : TokenizerConfig) (cs : List Char) :
    (config.placed .start cs).Pairwise fun a b =>
      (config.foldsDiacritics = true ∧ a.2.start = b.2.start ∧ a.2.stop = b.2.stop) ∨
        Separates cs a.2.stop.char b.2.start.char := by
  rw [TokenizerConfig.placed, List.pairwise_flatMap]
  refine ⟨fun run hrun => ?_, (pairwise_runsFrom [] cs).imp fun {a b} hab item hitem other hother => ?_⟩
  · cases hfolds : config.foldsDiacritics with
    | true =>
      refine List.pairwise_of_forall_mem_list fun item hitem other hother => .inl ⟨rfl, ?_⟩
      rw [(TokenizerConfig.mem_termsOfRun_iff.1 hitem).2.2,
        (TokenizerConfig.mem_termsOfRun_iff.1 hother).2.2]
      exact ⟨rfl, rfl⟩
    | false =>
      -- there are no two terms in a run
      rw [termsOfRun_eq hrun hfolds, List.pairwise_map]
      exact (List.pairwise_singleton _ _).filter _
  · rw [(TokenizerConfig.mem_termsOfRun_iff.1 hitem).2.2,
      (TokenizerConfig.mem_termsOfRun_iff.1 hother).2.2]
    exact .inr (hab.mono a.bounds_trimmed.2 b.bounds_trimmed.1)

/-- Two spans are apart, unless folding has made several terms of one run. -/
theorem pairwise_spans_apart (config : TokenizerConfig) (text : String) :
    (config.spans text).Pairwise fun a b =>
      (config.foldsDiacritics = true ∧ a.start = b.start ∧ a.stop = b.stop) ∨
        Separates text.toList a.stop.char b.start.char := by
  have hplaced := pairwise_placed_apart config text.toList
  rw [← List.zipIdx_map_fst 0 (config.placed _ _), List.pairwise_map] at hplaced
  rw [TokenizerConfig.spans, TokenizerConfig.spansOf, List.pairwise_map]
  exact hplaced

/-- Without folding, a span stops before the next one starts. -/
theorem stop_lt_start {i j : Nat} {a b : Span} (hfolds : config.foldsDiacritics = false) (hij : i < j)
    (ha : (config.spans text)[i]? = some a) (hb : (config.spans text)[j]? = some b) :
    a.stop.char < b.start.char := by
  obtain ⟨hi, rfl⟩ := List.getElem?_eq_some_iff.1 ha
  obtain ⟨hj, rfl⟩ := List.getElem?_eq_some_iff.1 hb
  rcases List.pairwise_iff_getElem.1 (pairwise_spans_apart config text) i j hi hj hij with hsame | hapart
  · rw [hfolds] at hsame
    exact absurd hsame.1 Bool.false_ne_true
  · exact hapart.lt

/-- Without folding and with all terms kept, a word character lies in the place of some span. -/
theorem exists_span_of_isWordChar (hfolds : config.foldsDiacritics = false)
    (hmin : config.minTermLength.toNat ≤ 1) {k : Nat} {c : Char} (hk : text.toList[k]? = some c)
    (hc : isWordChar c = true) :
    ∃ (i : Nat) (span : Span), (config.spans text)[i]? = some span ∧ span.start.char ≤ k ∧
      k < span.stop.char := by
  have hrunChar : isRunChar c = true := by rw [isRunChar, hc, Bool.true_or]
  obtain ⟨run, hrun, hle, hlt⟩ := exists_run_of_isRunChar hk hrunChar .start
  have hstart : Place.start.char + k = k := Nat.zero_add k
  rw [hstart] at hle hlt
  -- the character is no joiner, so it is not lost with those at the ends of its run
  have hbounds := run.mem_trimmed hrun hk (LawfulCharacters.isJoiner_of_isWordChar hc) hle hlt
  have hne : run.trimmed.chars ≠ [] := by
    intro hnil
    rw [Run.stop, Place.char_after, hnil] at hbounds
    exact absurd hbounds.2 (Nat.not_lt.2 hbounds.1)
  have hkeeps : config.keeps (lower run.trimmed.chars) = true := by
    have hlower := lower_ne_nil hne
    have hlength := Nat.le_trans hmin (List.length_pos_iff.2 hlower)
    rw [TokenizerConfig.keeps, Bool.and_eq_true, Bool.not_eq_true', List.isEmpty_eq_false_iff,
      decide_eq_true_eq]
    exact ⟨hlower, hlength⟩
  have hitem : (lower run.trimmed.chars, run.trimmed) ∈ config.placed .start text.toList := by
    refine List.mem_flatMap.2 ⟨run, hrun, ?_⟩
    rw [termsOfRun_eq hrun hfolds, List.filter_cons_of_pos hkeeps, List.filter_nil, List.map_singleton]
    exact List.mem_singleton_self _
  obtain ⟨i, hi⟩ := List.mem_iff_getElem?.1 hitem
  have hspan : (config.spans text)[i]? =
      some ⟨String.ofList (lower run.trimmed.chars), UInt32.ofNat i, run.trimmed.start,
        run.trimmed.stop⟩ := by
    rw [TokenizerConfig.getElem?_spans, hi]
    rfl
  exact ⟨i, _, hspan, hbounds⟩

/-- Whatever the characters are, if they keep the laws, the spans of a text lie in it side by side. -/
theorem TokenizerConfig.tiles_spans (config : TokenizerConfig) (text : String) :
    Tiles config text (config.spans text) where
  position_eq i span hi := by
    rw [TokenizerConfig.getElem?_spans] at hi
    obtain ⟨item, -, rfl⟩ := Option.map_eq_some_iff.1 hi
    rfl
  isTile _ hspan := exists_isTile hspan
  apart := pairwise_spans_apart config text
  covered hfolds hmin k c hk hc := by
    obtain ⟨i, span, hi, hle, hlt⟩ := exists_span_of_isWordChar hfolds hmin hk hc
    refine ⟨i, ⟨span, hi, hle, hlt⟩, ?_⟩
    rintro j ⟨other, hj, hle', hlt'⟩
    rcases Nat.lt_trichotomy j i with hji | heq | hij
    · have := stop_lt_start hfolds hji hj hi
      omega
    · exact heq
    · have := stop_lt_start hfolds hij hi hj
      omega

end Spans

end Concordance

namespace Concordance.Unicode

/-- The spans of a text lie in it side by side. -/
theorem spans_tile (config : TokenizerConfig) (text : String) : Tiles config text (config.spans text) :=
  config.tiles_spans text

end Concordance.Unicode
