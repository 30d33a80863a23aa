import Concordance.Proofs.Layout
import Concordance.Proofs.Trimming

/-!
# Where the terms of a text stand

A text is a row of runs with separators between them, and a separator keeps what stands before it and
behind it apart: the terms of the whole are those of the parts. The same holds at both edges of the
stretch that a term comes from, for all that is left of its run there are joiners. So each term has a
stretch of the text around it that can be cut out with no harm to the terms before it, in it and behind
it.
-/

namespace Concordance

open Text

/-! ### Runs and separators -/

section Runs

variable {p : Char → Bool} {s : Char}

theorem takeWhile_append_separator (hs : p s = false) (front rest : List Char) :
    (front ++ s :: rest).takeWhile p = front.takeWhile p := by
  induction front with
  | nil => simp [hs]
  | cons c front ih => rw [List.cons_append, List.takeWhile_cons, List.takeWhile_cons, ih]

theorem dropWhile_append_separator (hs : p s = false) (front rest : List Char) :
    (front ++ s :: rest).dropWhile p = front.dropWhile p ++ s :: rest := by
  induction front with
  | nil => simp [hs]
  | cons c front ih =>
      rw [List.cons_append, List.dropWhile_cons, List.dropWhile_cons, ih]
      split
      · rfl
      · rfl

/-- A separator ends a run, whatever comes behind. -/
theorem runsOf_append_separator (hs : p s = false) (front rest : List Char) :
    runsOf p (front ++ s :: rest) = runsOf p front ++ runsOf p rest := by
  fun_induction runsOf p front with
  | case1 => rw [List.nil_append, List.nil_append, runsOf, if_neg (by simp [hs])]
  | case2 c front hc ih =>
      rw [List.cons_append, runsOf, if_pos hc, takeWhile_append_separator hs,
        dropWhile_append_separator hs, ih]
      rfl
  | case3 c front hc ih => rw [List.cons_append, runsOf, if_neg hc, ih]

/-- A text of nothing but characters of runs is one run. -/
theorem runsOf_of_all {cs : List Char} (hne : cs ≠ []) (h : ∀ c ∈ cs, p c = true) :
    runsOf p cs = [cs] := by
  obtain ⟨c, rest, rfl⟩ := List.exists_cons_of_ne_nil hne
  have hrest : ∀ d ∈ rest, p d = true := fun d hd => h d (List.mem_cons_of_mem _ hd)
  have htake : rest.takeWhile p = rest := List.takeWhile_eq_self_iff.2 hrest
  have hdrop : rest.dropWhile p = [] := List.dropWhile_eq_nil_iff.2 hrest
  rw [runsOf, if_pos (h c List.mem_cons_self), htake, hdrop, runsOf]

/-- Changing characters to others that runs are made of in the same way. -/
theorem runsOf_map {f : Char → Char} (hf : ∀ c, p (f c) = p c) (cs : List Char) :
    runsOf p (cs.map f) = (runsOf p cs).map (List.map f) := by
  have hcomp : p ∘ f = p := funext hf
  fun_induction runsOf p cs with
  | case1 => rw [List.map_nil, runsOf, List.map_nil]
  | case2 c rest hc ih =>
      rw [List.map_cons, runsOf, if_pos (by rwa [hf]), List.takeWhile_map, List.dropWhile_map, hcomp, ih]
      rfl
  | case3 c rest hc ih => rw [List.map_cons, runsOf, if_neg (by rwa [hf]), ih]

/-- A text is a run, perhaps an empty one, or has a separator behind the first run. -/
theorem separator_induction {p : Char → Bool} {motive : List Char → Prop}
    (run : ∀ cs, (∀ c ∈ cs, p c = true) → motive cs)
    (separator : ∀ cs s rest, (∀ c ∈ cs, p c = true) → p s = false → motive rest →
      motive (cs ++ s :: rest)) (cs : List Char) : motive cs := by
  -- the text is its first run, then a separator and what is behind it, if there is one
  have hsplit : cs = cs.takeWhile p ++ cs.dropWhile p := List.takeWhile_append_dropWhile.symm
  have htake : ∀ c ∈ cs.takeWhile p, p c = true := fun c => List.mem_takeWhile_imp
  cases hdrop : cs.dropWhile p with
  | nil =>
      rw [hdrop, List.append_nil] at hsplit
      exact run cs (hsplit ▸ htake)
  | cons s rest =>
      have hs : p s = false := by
        have := List.head_dropWhile_not p (l := cs) (by simp [hdrop])
        simpa only [hdrop, List.head_cons] using this
      have hshorter : rest.length < cs.length := by
        have := length_dropWhile_le p cs
        rw [hdrop, List.length_cons] at this
        omega
      rw [hsplit, hdrop]
      exact separator _ s rest htake hs (separator_induction run separator rest)
termination_by cs.length

end Runs

/-! ### Places -/

@[simp] theorem Place.char_after (place : Place) (cs : List Char) :
    (place.after cs).char = place.char + cs.length :=
  rfl

theorem Place.char_start_after (cs : List Char) : (Place.start.after cs).char = cs.length :=
  Nat.zero_add _

@[simp] theorem Place.after_after (place : Place) (front rest : List Char) :
    (place.after front).after rest = place.after (front ++ rest) := by
  have hsum (sizes : List Nat) (n : Nat) : sizes.foldr (· + ·) n = sizes.foldr (· + ·) 0 + n := by
    induction sizes with
    | nil => simp
    | cons size sizes ih =>
        rw [List.foldr_cons, List.foldr_cons, ih]
        omega
  simp only [Place.after, List.map_append, List.foldr_append, List.length_append, Place.mk.injEq]
  rw [hsum _ (List.foldr _ _ _)]
  omega

variable [CharacterTable]

/-- A separator ends a run, and the runs behind it are those of the rest. -/
theorem runsFrom_append_separator {s : Char} (hs : isRunChar s = false) (place : Place)
    (front rest : List Char) :
    runsFrom place (front ++ s :: rest) =
      runsFrom place front ++ runsFrom (place.after (front ++ [s])) rest := by
  fun_induction runsFrom place front with
  | case1 place => rw [List.nil_append, List.nil_append, runsFrom, if_neg (by simp [hs])]; rfl
  | case2 place c front hc chars ih =>
      rw [List.cons_append, runsFrom, if_pos hc, takeWhile_append_separator hs,
        dropWhile_append_separator hs]
      simp only [chars] at ih ⊢
      rw [ih, Place.after_after, List.cons_append, ← List.append_assoc,
        List.takeWhile_append_dropWhile]
      rfl
  | case3 place c front hc ih =>
      rw [List.cons_append, runsFrom, if_neg hc, ih, Place.after_after]
      rfl

theorem runsFrom_of_all {cs : List Char} (hne : cs ≠ []) (h : ∀ c ∈ cs, isRunChar c = true)
    (place : Place) : runsFrom place cs = [⟨place, cs⟩] := by
  obtain ⟨c, rest, rfl⟩ := List.exists_cons_of_ne_nil hne
  have hrest : ∀ d ∈ rest, isRunChar d = true := fun d hd => h d (List.mem_cons_of_mem _ hd)
  have htake : rest.takeWhile isRunChar = rest := List.takeWhile_eq_self_iff.2 hrest
  have hdrop : rest.dropWhile isRunChar = [] := List.dropWhile_eq_nil_iff.2 hrest
  rw [runsFrom, if_pos (h c List.mem_cons_self), htake, hdrop]
  simp [runsFrom]

/-! ### The terms of a part of a text -/

namespace TokenizerConfig

variable (config : TokenizerConfig)

def termsIn (cs : List Char) : List (List Char) :=
  (runsOf isRunChar cs).flatMap fun chars => config.termsOfWord (trimBy isJoiner chars)

/-- The terms of some characters that begin at `place`, each with the stretch that it comes from. -/
def placed (place : Place) (cs : List Char) : List (List Char × Run) :=
  (runsFrom place cs).flatMap config.termsOfRun

variable {config}

@[simp] theorem termsOfWord_nil : config.termsOfWord [] = [] := by
  have hnormal : config.normalize [] = [] := by
    rw [normalize]
    split
    · rfl
    · rfl
  rw [termsOfWord, hnormal]
  rfl

@[simp] theorem termsIn_nil : config.termsIn [] = [] := by
  rw [termsIn, runsOf]
  rfl

theorem termsIn_append_separator {s : Char} (hs : isRunChar s = false) (front rest : List Char) :
    config.termsIn (front ++ s :: rest) = config.termsIn front ++ config.termsIn rest := by
  rw [termsIn, runsOf_append_separator hs, List.flatMap_append]
  rfl

theorem termsIn_of_all {cs : List Char} (h : ∀ c ∈ cs, isRunChar c = true) :
    config.termsIn cs = config.termsOfWord (trimBy isJoiner cs) := by
  by_cases hne : cs = []
  · rw [hne, termsIn_nil]
    exact termsOfWord_nil.symm
  · rw [termsIn, runsOf_of_all hne h, List.flatMap_singleton]

/-- Separators before other characters make no difference. -/
theorem termsIn_separators_append {front : List Char} (h : ∀ c ∈ front, isRunChar c = false)
    (cs : List Char) : config.termsIn (front ++ cs) = config.termsIn cs := by
  induction front with
  | nil => rfl
  | cons s front ih =>
      have hterms : config.termsIn ([] ++ s :: (front ++ cs)) = _ :=
        termsIn_append_separator (h s List.mem_cons_self) [] (front ++ cs)
      rw [termsIn_nil, List.nil_append, List.nil_append] at hterms
      rw [List.cons_append, hterms]
      exact ih fun c hc => h c (List.mem_cons_of_mem _ hc)

/-- Separators behind other characters make no difference. -/
theorem termsIn_append_separators {back : List Char} (h : ∀ c ∈ back, isRunChar c = false)
    (cs : List Char) : config.termsIn (cs ++ back) = config.termsIn cs := by
  cases back with
  | nil => rw [List.append_nil]
  | cons s back =>
      have hnone : config.termsIn (back ++ []) = config.termsIn [] :=
        termsIn_separators_append (fun c hc => h c (List.mem_cons_of_mem _ hc)) []
      rw [List.append_nil, termsIn_nil] at hnone
      rw [termsIn_append_separator (h s List.mem_cons_self), hnone, List.append_nil]

theorem placed_append_separator {s : Char} (hs : isRunChar s = false) (place : Place)
    (front rest : List Char) :
    config.placed place (front ++ s :: rest) =
      config.placed place front ++ config.placed (place.after (front ++ [s])) rest := by
  rw [placed, runsFrom_append_separator hs, List.flatMap_append]
  rfl

/-- All terms of a run have the stretch of the run without the joiners at its ends. -/
theorem placed_of_all {cs : List Char} (h : ∀ c ∈ cs, isRunChar c = true) (place : Place) :
    config.placed place cs =
      (config.termsIn cs).map fun term => (term, (⟨place, cs⟩ : Run).trimmed) := by
  by_cases hne : cs = []
  · rw [hne, placed, runsFrom, termsIn_nil]
    rfl
  · rw [termsIn_of_all h, placed, runsFrom_of_all hne h, List.flatMap_singleton, termsOfRun]
    split
    · next hempty =>
        rw [List.isEmpty_iff.1 (show (trimBy isJoiner cs).isEmpty = true from hempty)]
        rw [termsOfWord_nil, List.map_nil]
    · rfl

@[simp] theorem map_fst_placed (place : Place) (cs : List Char) :
    (config.placed place cs).map Prod.fst = config.termsIn cs := by
  induction cs using separator_induction (p := isRunChar) generalizing place with
  | run cs h =>
      rw [placed_of_all h, List.map_map]
      exact List.map_id _
  | separator cs s rest h hs ih =>
      rw [placed_append_separator hs, List.map_append, ih, placed_of_all h, List.map_map,
        termsIn_append_separator hs]
      congr 1
      exact List.map_id _

@[simp] theorem length_placed (place : Place) (cs : List Char) :
    (config.placed place cs).length = (config.termsIn cs).length := by
  rw [← map_fst_placed place cs, List.length_map]

/-- A change of runs that keeps their words, once these are trimmed, keeps their terms. -/
theorem termsOfRun_map {change : Run → Run} (htrimmed : ∀ run, (change run).trimmed = change run.trimmed)
    (hempty : ∀ run, (change run).chars.isEmpty = run.chars.isEmpty)
    (hterms : ∀ run, config.termsOfWord (change run).chars = config.termsOfWord run.chars) (run : Run) :
    config.termsOfRun (change run) = (config.termsOfRun run).map (Prod.map id change) := by
  rw [termsOfRun, termsOfRun, htrimmed, hempty, hterms]
  split
  · rfl
  · rw [List.map_map]
    rfl

/-- So does a change of the text that changes its runs in this way. -/
theorem placed_map {change : Run → Run} (htrimmed : ∀ run, (change run).trimmed = change run.trimmed)
    (hempty : ∀ run, (change run).chars.isEmpty = run.chars.isEmpty)
    (hterms : ∀ run, config.termsOfWord (change run).chars = config.termsOfWord run.chars)
    {place place' : Place} {cs cs' : List Char}
    (hruns : runsFrom place' cs' = (runsFrom place cs).map change) :
    config.placed place' cs' = (config.placed place cs).map (Prod.map id change) := by
  rw [placed, hruns, List.flatMap_map, placed, List.map_flatMap]
  exact List.flatMap_congr fun run _ => termsOfRun_map htrimmed hempty hterms run

/-! ### Where a text can be cut -/

/-- Whatever follows `front`, the terms of `front` stay as they are. -/
def CutsBehind (config : TokenizerConfig) (front : List Char) : Prop :=
  ∀ cs, config.termsIn (front ++ cs) = config.termsIn front ++ config.termsIn cs

/-- Whatever comes before `rest`, the terms of `rest` stay as they are. -/
def CutsBefore (config : TokenizerConfig) (rest : List Char) : Prop :=
  ∀ cs, config.termsIn (cs ++ rest) = config.termsIn cs ++ config.termsIn rest

theorem isRunChar_of_isJoiner {c : Char} (h : isJoiner c = true) : isRunChar c = true := by
  rw [isRunChar, h, Bool.or_true]

/-- Joiners before or behind other characters make no difference. -/
theorem termsIn_joiners {front back : List Char} (hfront : ∀ c ∈ front, isJoiner c = true)
    (hback : ∀ c ∈ back, isJoiner c = true) (cs : List Char) :
    config.termsIn (front ++ cs ++ back) = config.termsIn cs := by
  induction cs using separator_induction (p := isRunChar) generalizing front with
  | run cs h =>
      have hall : ∀ c ∈ front ++ cs ++ back, isRunChar c = true := by
        intro c hc
        simp only [List.mem_append] at hc
        rcases hc with (hc | hc) | hc
        · exact isRunChar_of_isJoiner (hfront c hc)
        · exact h c hc
        · exact isRunChar_of_isJoiner (hback c hc)
      rw [termsIn_of_all hall, termsIn_of_all h, trimBy_append hfront hback]
  | separator cs s rest h hs ih =>
      -- the joiners at the front belong to the first run, those at the back to what follows the separator
      have hbehind : config.termsIn ([] ++ rest ++ back) = config.termsIn rest := ih (by simp)
      have hbefore : config.termsIn (front ++ cs) = config.termsIn cs := by
        have hall : ∀ c ∈ front ++ cs, isRunChar c = true := by
          intro c hc
          rcases List.mem_append.1 hc with hc | hc
          · exact isRunChar_of_isJoiner (hfront c hc)
          · exact h c hc
        have htrim : trimBy isJoiner (front ++ cs ++ []) = trimBy isJoiner cs :=
          trimBy_append hfront (by simp) cs
        rw [List.append_nil] at htrim
        rw [termsIn_of_all hall, termsIn_of_all h, htrim]
      rw [termsIn_append_separator hs, ← hbehind, ← hbefore, ← termsIn_append_separator hs]
      simp

theorem termsIn_joiners_append {front : List Char} (h : ∀ c ∈ front, isJoiner c = true)
    (cs : List Char) : config.termsIn (front ++ cs) = config.termsIn cs := by
  have hterms : config.termsIn (front ++ cs ++ []) = config.termsIn cs :=
    termsIn_joiners h (by simp) cs
  rwa [List.append_nil] at hterms

theorem termsIn_append_joiners {back : List Char} (h : ∀ c ∈ back, isJoiner c = true)
    (cs : List Char) : config.termsIn (cs ++ back) = config.termsIn cs :=
  termsIn_joiners (show ∀ c ∈ [], _ by simp) h cs

theorem termsIn_of_isJoiner {cs : List Char} (h : ∀ c ∈ cs, isJoiner c = true) :
    config.termsIn cs = [] := by
  rw [← List.nil_append cs, termsIn_append_joiners h, termsIn_nil]

theorem cutsBehind_joiners {front : List Char} (h : ∀ c ∈ front, isJoiner c = true) :
    config.CutsBehind front := by
  intro cs
  rw [termsIn_joiners_append h, termsIn_of_isJoiner h, List.nil_append]

theorem cutsBefore_joiners {back : List Char} (h : ∀ c ∈ back, isJoiner c = true) :
    config.CutsBefore back := by
  intro cs
  rw [termsIn_append_joiners h, termsIn_of_isJoiner h, List.append_nil]

theorem CutsBehind.separator_append {s : Char} (hs : isRunChar s = false) {front : List Char}
    (h : config.CutsBehind front) (cs : List Char) : config.CutsBehind (cs ++ s :: front) := by
  intro rest
  rw [List.append_assoc, List.cons_append, termsIn_append_separator hs, h rest,
    termsIn_append_separator hs, List.append_assoc]

theorem CutsBefore.append_separator {s : Char} (hs : isRunChar s = false) {back : List Char}
    (h : config.CutsBefore back) (cs : List Char) : config.CutsBefore (back ++ s :: cs) := by
  intro front
  rw [← List.append_assoc, termsIn_append_separator hs, h front, termsIn_append_separator hs,
    List.append_assoc]

/-! ### The stretch of a term -/

/-- The text `cs`, which begins at `place`, is `before ++ word ++ after`, can be cut at both ends of
`word`, and `word` is the stretch of all terms that are found in it. -/
structure Stretch (config : TokenizerConfig) (place : Place) (cs before word after : List Char) :
    Prop where
  text_eq : cs = before ++ word ++ after
  cutsBehind : config.CutsBehind before
  cutsBefore : config.CutsBefore after
  runChars : ∀ c ∈ word, isRunChar c = true
  placed : ∀ i, (config.termsIn before).length ≤ i → i < (config.termsIn (before ++ word)).length →
    ((config.placed place cs)[i]?).map Prod.snd = some ⟨place.after before, word⟩

/-- The stretch of the terms of a run. -/
theorem stretch_of_all (config : TokenizerConfig) {cs : List Char}
    (h : ∀ c ∈ cs, isRunChar c = true) (place : Place) :
    ∃ before after, Stretch config place cs before (trimBy isJoiner cs) after ∧
      config.termsIn before = [] ∧
      config.termsIn (before ++ trimBy isJoiner cs) = config.termsIn cs := by
  obtain ⟨back, heq, hback⟩ := takeWhile_append_trimBy isJoiner cs
  have hfront : ∀ c ∈ cs.takeWhile isJoiner, isJoiner c = true := fun c => List.mem_takeWhile_imp
  have hnone : config.termsIn (cs.takeWhile isJoiner) = [] := termsIn_of_isJoiner hfront
  have hall : config.termsIn (cs.takeWhile isJoiner ++ trimBy isJoiner cs) = config.termsIn cs := by
    conv_rhs => rw [heq]
    rw [termsIn_append_joiners hback]
  refine ⟨_, back, ⟨heq, cutsBehind_joiners hfront, cutsBefore_joiners hback, ?_, ?_⟩, hnone, hall⟩
  · exact fun c hc => h c ((infix_trimBy isJoiner cs).subset hc)
  · intro i _ hi
    rw [hall] at hi
    rw [placed_of_all h, List.getElem?_map, List.getElem?_eq_getElem hi]
    rfl

/-- A stretch of a text is one of the text with more behind it. -/
theorem Stretch.append_separator {place : Place} {s : Char} (hs : isRunChar s = false)
    {cs before word after : List Char} (h : Stretch config place cs before word after)
    (rest : List Char) :
    Stretch config place (cs ++ s :: rest) before word (after ++ s :: rest) where
  text_eq := by rw [h.text_eq, List.append_assoc]
  cutsBehind := h.cutsBehind
  cutsBefore := h.cutsBefore.append_separator hs rest
  runChars := h.runChars
  placed i hle hlt := by
    have hin := h.placed i hle hlt
    obtain ⟨item, hitem, -⟩ := Option.map_eq_some_iff.1 hin
    rw [placed_append_separator hs,
      List.getElem?_append_left (List.getElem?_eq_some_iff.1 hitem).1]
    exact hin

/-- A stretch of a text is one of the text with more before it. -/
theorem Stretch.separator_append {place : Place} {s : Char} (hs : isRunChar s = false)
    {cs rest before word after : List Char}
    (h : Stretch config (place.after (cs ++ [s])) rest before word after) :
    Stretch config place (cs ++ s :: rest) (cs ++ s :: before) word after where
  text_eq := by simp [h.text_eq]
  cutsBehind := h.cutsBehind.separator_append hs cs
  cutsBefore := h.cutsBefore
  runChars := h.runChars
  placed i hle hlt := by
    rw [termsIn_append_separator hs, List.length_append] at hle
    rw [List.append_assoc, List.cons_append, termsIn_append_separator hs, List.length_append] at hlt
    have hin := h.placed (i - (config.termsIn cs).length) (by omega) (by omega)
    rw [placed_append_separator hs, List.getElem?_append_right (by rw [length_placed]; omega),
      length_placed, hin, Place.after_after]
    simp

/-- Every term of a text has its stretch; it may share it with its neighbours. -/
theorem exists_stretch (place : Place) (cs : List Char) {i : Nat}
    (hi : i < (config.termsIn cs).length) :
    ∃ before word after, Stretch config place cs before word after ∧
      (config.termsIn before).length ≤ i ∧ i < (config.termsIn (before ++ word)).length := by
  induction cs using separator_induction (p := isRunChar) generalizing place i with
  | run cs h =>
      obtain ⟨before, after, hstretch, hnone, hall⟩ := stretch_of_all config h place
      exact ⟨before, _, after, hstretch, by simp [hnone], by rwa [hall]⟩
  | separator cs s rest h hs ih =>
      -- the terms before the separator come first, those behind it are counted from there
      rw [termsIn_append_separator hs, List.length_append] at hi
      by_cases hfirst : i < (config.termsIn cs).length
      · obtain ⟨before, after, hstretch, hnone, hall⟩ := stretch_of_all config h place
        exact ⟨before, _, _, hstretch.append_separator hs rest, by simp [hnone], by rwa [hall]⟩
      · obtain ⟨before, word, after, hstretch, hle, hlt⟩ :=
          ih (place.after (cs ++ [s])) (i := i - (config.termsIn cs).length) (by omega)
        refine ⟨_, word, after, hstretch.separator_append hs, ?_, ?_⟩
        · rw [termsIn_append_separator hs, List.length_append]
          omega
        · rw [List.append_assoc, List.cons_append, termsIn_append_separator hs, List.length_append]
          omega

/-! ### Spans -/

/-- A stretch lies inside the text and is not empty. -/
theorem bounds_of_mem_placed {place : Place} {cs : List Char} {item : List Char × Run}
    (h : item ∈ config.placed place cs) :
    place.char ≤ item.2.start.char ∧ item.2.start.char < item.2.stop.char ∧
      item.2.stop.char ≤ place.char + cs.length := by
  obtain ⟨i, hi, hitem⟩ := List.getElem_of_mem h
  rw [length_placed] at hi
  obtain ⟨before, word, after, hstretch, hle, hlt⟩ := exists_stretch place cs hi
  have hplace := hstretch.placed i hle hlt
  rw [List.getElem?_eq_getElem (by rwa [length_placed]), hitem, Option.map_some,
    Option.some.injEq] at hplace
  have hword : 0 < word.length := by
    by_contra hnone
    rw [Nat.not_lt, Nat.le_zero, List.length_eq_zero_iff] at hnone
    rw [hnone, List.append_nil] at hlt
    omega
  have hlength := congrArg List.length hstretch.text_eq
  simp only [List.length_append] at hlength
  rw [hplace, Run.stop]
  simp only [Place.char_after]
  omega

/-- The stretches come in the order of the text. -/
theorem pairwise_placed (place : Place) (cs : List Char) :
    (config.placed place cs).Pairwise fun a b =>
      a.2.start.char ≤ b.2.start.char ∧ a.2.stop.char ≤ b.2.stop.char := by
  induction cs using separator_induction (p := isRunChar) generalizing place with
  | run cs h =>
      rw [placed_of_all h, List.pairwise_map]
      exact List.pairwise_of_forall fun _ _ => ⟨Nat.le_refl _, Nat.le_refl _⟩
  | separator cs s rest h hs ih =>
      rw [placed_append_separator hs, List.pairwise_append]
      refine ⟨?_, ih _, ?_⟩
      · rw [placed_of_all h, List.pairwise_map]
        exact List.pairwise_of_forall fun _ _ => ⟨Nat.le_refl _, Nat.le_refl _⟩
      · intro a ha b hb
        have hfirst := bounds_of_mem_placed ha
        have hsecond := bounds_of_mem_placed hb
        rw [Place.char_after, List.length_append] at hsecond
        omega

/-- A span is a term at its place. -/
theorem getElem?_spans (text : String) (i : Nat) :
    (config.spans text)[i]? =
      ((config.placed .start text.toList)[i]?).map fun item =>
        ⟨String.ofList item.1, UInt32.ofNat i, item.2.start, item.2.stop⟩ := by
  rw [spans, spansOf, placed, List.getElem?_map, List.getElem?_zipIdx, Option.map_map, Nat.zero_add]
  rfl

@[simp] theorem length_spans (text : String) :
    (config.spans text).length = (config.termsIn text.toList).length := by
  rw [spans, spansOf, List.length_map, List.length_zipIdx, ← length_placed .start, placed]

theorem terms_eq_map_termsIn (text : String) :
    config.terms text = (config.termsIn text.toList).map String.ofList := by
  rw [terms_eq, ← map_fst_placed .start, List.map_map, placed]
  rfl

/-- The spans of a stretch start and stop with it. -/
theorem Stretch.spans {text : String} {before word after : List Char}
    (h : Stretch config .start text.toList before word after) {i : Nat}
    (hle : (config.termsIn before).length ≤ i) (hlt : i < (config.termsIn (before ++ word)).length) :
    ∃ span, (config.spans text)[i]? = some span ∧ span.start = Place.start.after before ∧
      span.stop = Place.start.after (before ++ word) := by
  obtain ⟨⟨term, run⟩, hitem, hrun⟩ := Option.map_eq_some_iff.1 (h.placed i hle hlt)
  obtain rfl : run = ⟨Place.start.after before, word⟩ := hrun
  refine ⟨⟨String.ofList term, UInt32.ofNat i, Place.start.after before, _⟩, ?_, rfl,
    Place.after_after _ _ _⟩
  rw [getElem?_spans, hitem]
  rfl

end TokenizerConfig

end Concordance
