import Concordance.ChangeBatch
import Concordance.CommandLine.Command
import Concordance.Proofs.Trimming
import Concordance.Proofs.UnicodeLaws
import Mathlib

/-!
# The extensions that are watched

The list of extensions that is typed goes two ways: changes of files are tested against the list as it
stands, and the corpus takes off the dots that its entries begin with. So a change is noticed only of
what is an article, but an extension that is typed with a dot makes articles whose changes are not
noticed, unless it is typed without the dot as well.
-/

namespace Concordance

open Text

/-! ### Extensions of paths -/

namespace Path

/-- No separator of extensions or names. -/
def IsExtension (e : String) : Prop :=
  '.' ∉ e.toList ∧ '/' ∉ e.toList

instance (e : String) : Decidable (IsExtension e) :=
  inferInstanceAs (Decidable (_ ∧ _))

/-- The name at the end of a path is one of its pieces. -/
theorem mem_pieces_of_fileName? {path name : String} (h : fileName? path = some name) :
    name.toList ∈ pieces path := by
  -- the name is the last part of the path, which comes from one of its pieces
  have hlast : (parts path).getLast? = some (.name name) := by
    rw [fileName?] at h
    split at h
    · next name' hname =>
        cases h
        exact hname
    · cases h
  have hmem : PathPart.name name ∈ (steps path).filter (· != .here) := by
    rcases List.mem_append.1 (List.mem_of_getLast? hlast) with hmem | hmem
    · split at hmem
      · simp at hmem
      · cases hmem
    · exact hmem
  rcases List.mem_append.1 (List.mem_filter.1 hmem).1 with hroot | hpiece
  · split at hroot
    · simp at hroot
    · cases hroot
  · obtain ⟨text, htext, hname⟩ := List.mem_map.1 hpiece
    rw [piece] at hname
    split at hname
    · cases hname
    · split at hname
      · cases hname
      · cases hname
        rwa [String.toList_ofList]

/-- An extension that a path has holds neither a dot nor a slash. -/
theorem isExtension_of_extension? {path e : String} (h : extension? path = some e) :
    IsExtension e := by
  obtain ⟨name, hname, h⟩ := Option.bind_eq_some_iff.1 h
  obtain ⟨⟨before, after⟩, hsplit, h⟩ := Option.bind_eq_some_iff.1 h
  dsimp only at h
  split at h
  · cases h
  · cases h
    obtain ⟨heq, hdot⟩ := splitLast?_eq_some_iff.1 hsplit
    have hpiece := mem_pieces_of_fileName? hname
    rw [heq] at hpiece
    refine ⟨by rwa [String.toList_ofList], ?_⟩
    rw [String.toList_ofList]
    intro hslash
    have := (mem_of_mem_splitBy hpiece '/' (by simp [hslash])).2
    simp at this

/-- Every extension is the extension of some file. -/
theorem extension?_of_toList {name e : String} (hname : name.toList = 'a' :: '.' :: e.toList)
    (h : IsExtension e) : extension? name = some e := by
  have hslash : ∀ c ∈ name.toList, (c == '/') = false := by
    intro c hc
    rw [beq_eq_false_iff_ne]
    rintro rfl
    rw [hname, List.mem_cons, List.mem_cons] at hc
    rcases hc with hc | hc | hc
    · cases hc
    · cases hc
    · exact h.2 hc
  have hpieces : pieces name = [name.toList] := splitBy_of_none hslash
  have hpiece : piece name.toList = .name name := by
    rw [piece, if_neg (by simp [hname]), if_neg (by simp [hname]), String.ofList_toList]
  -- a path without separators is its own file name
  have hfile : fileName? name = some name := by
    have habsolute : isAbsolute name = false := by simp [isAbsolute, hname]
    have hdot : name.toList ≠ ['.'] := by simp [hname]
    simp [fileName?, parts, steps, habsolute, hpieces, hpiece, hdot]
  have hsplit : splitLast? '.' name.toList = some (['a'], e.toList) :=
    splitLast?_eq_some_iff.2 ⟨hname, h.1⟩
  rw [extension?, hfile, Option.bind_some, hsplit]
  simp

end Path

namespace DirectoryCorpus

open Concordance.Path

theorem mem_of_sameLetters {a b : String} (h : sameLetters a b = true) {c : Char}
    (hc : c.isAlpha = false) (hmem : c ∈ a.toList) : c ∈ b.toList := by
  rw [sameLetters, beq_iff_eq, asciiLower, asciiLower] at h
  have hlower : c ∈ a.toList.map Char.toLower :=
    List.mem_map.2 ⟨c, hmem, (toLower_eq_iff hc).2 rfl⟩
  rw [h] at hlower
  obtain ⟨d, hd, heq⟩ := List.mem_map.1 hlower
  rwa [← (toLower_eq_iff hc).1 heq]

@[simp] theorem sameLetters_refl (a : String) : sameLetters a a = true :=
  beq_self_eq_true _

theorem sameLetters_trans {a b c : String} (hab : sameLetters a b = true)
    (hbc : sameLetters b c = true) : sameLetters a c = true := by
  rw [sameLetters, beq_iff_eq] at hab hbc ⊢
  exact hab.trans hbc

/-- The case of letters makes no difference to whether a text is an extension. -/
theorem isExtension_of_sameLetters {a b : String} (h : sameLetters a b = true)
    (hb : IsExtension b) : IsExtension a :=
  ⟨fun ha => hb.1 (mem_of_sameLetters h (by decide) ha),
    fun ha => hb.2 (mem_of_sameLetters h (by decide) ha)⟩

/-- A path has one of the extensions of a list. -/
theorem hasExtension_iff {extensions : List String} {path : String} :
    hasExtension extensions path = true ↔
      ∃ e, extension? path = some e ∧ ∃ x ∈ extensions, sameLetters x e = true := by
  rw [hasExtension]
  cases extension? path with
  | none => simp
  | some e => simp

def undotted (extension : String) : String :=
  String.ofList (extension.toList.dropWhile (· == '.'))

/-- An extension has no dot, so there is none to take off. -/
theorem undotted_of_isExtension {x : String} (h : IsExtension x) : undotted x = x := by
  have hstays : x.toList.dropWhile (· == '.') = x.toList := by
    cases hx : x.toList with
    | nil => rfl
    | cons c rest =>
        have hc : c ≠ '.' := by
          rintro rfl
          exact h.1 (by simp [hx])
        simp [hc]
  rw [undotted, hstays, String.ofList_toList]

end DirectoryCorpus

namespace CommandLine.CorpusOptions

open DirectoryCorpus Concordance.Path

/-- The entries of the list are in lower case and without white space around them. -/
theorem trim_and_lower_of_mem {o : CorpusOptions} {x : String} (h : x ∈ o.extensionList) :
    x ≠ "" ∧ trim x.toList = x.toList ∧ ∀ c ∈ x.toList, IsLowered c := by
  obtain ⟨hmem, hne⟩ := List.mem_filter.1 h
  obtain ⟨entry, -, rfl⟩ := List.mem_map.1 hmem
  refine ⟨by simpa using hne, ?_, ?_⟩
  · rw [String.toList_ofList]
    exact trim_lower (trimBy_trimBy isBlank entry)
  · rw [String.toList_ofList]
    exact fun c => isLowered_of_mem_lower

/-- What the corpus makes of an entry that is trimmed and in lower case already. -/
theorem plainExtension_of_mem {o : CorpusOptions} {x : String} (h : x ∈ o.extensionList) :
    plainExtension x = undotted x := by
  obtain ⟨-, htrim, hlow⟩ := trim_and_lower_of_mem h
  rw [plainExtension, undotted, htrim]
  refine congrArg String.ofList (lower_of_isLowered fun c hc => hlow c ?_)
  exact (List.dropWhile_suffix _).subset hc

theorem mem_corpus_extensions {o : CorpusOptions} {e : String} :
    e ∈ o.corpus.extensions ↔ e ≠ "" ∧ ∃ x ∈ o.extensionList, undotted x = e := by
  have hmap : o.extensionList.map plainExtension = o.extensionList.map undotted :=
    List.map_congr_left fun x hx => plainExtension_of_mem hx
  rw [corpus, ofTyped, hmap, List.mem_filter, List.mem_map, and_comm]
  simp

/-- What is watched is an article. -/
theorem hasExtension_corpus_of_watched {o : CorpusOptions} {path : String}
    (h : hasExtension o.extensionList path = true) :
    hasExtension o.corpus.extensions path = true := by
  obtain ⟨e, he, x, hx, hsame⟩ := hasExtension_iff.1 h
  have hext := isExtension_of_sameLetters hsame (isExtension_of_extension? he)
  refine hasExtension_iff.2 ⟨e, he, x, mem_corpus_extensions.2 ⟨?_, x, hx, ?_⟩, hsame⟩
  · exact (trim_and_lower_of_mem hx).1
  · exact undotted_of_isExtension hext

/-- Every entry that makes articles when its dots are taken off is listed without them as well. -/
def CoversDotted (o : CorpusOptions) : Prop :=
  ∀ x ∈ o.extensionList, undotted x ≠ "" → IsExtension (undotted x) →
    ∃ y ∈ o.extensionList, sameLetters y (undotted x) = true

/-- The articles are watched if the entries that begin with dots are covered, and only then. -/
theorem coversDotted_iff (o : CorpusOptions) :
    o.CoversDotted ↔
      ∀ path, hasExtension o.extensionList path = hasExtension o.corpus.extensions path := by
  constructor
  · intro hcover path
    rw [Bool.eq_iff_iff]
    refine ⟨hasExtension_corpus_of_watched, fun h => ?_⟩
    obtain ⟨e, he, e', he', hsame⟩ := hasExtension_iff.1 h
    obtain ⟨hne, x, hx, rfl⟩ := mem_corpus_extensions.1 he'
    have hext := isExtension_of_sameLetters hsame (isExtension_of_extension? he)
    obtain ⟨y, hy, hsame'⟩ := hcover x hx hne hext
    exact hasExtension_iff.2 ⟨e, he, y, hy, sameLetters_trans hsame' hsame⟩
  · intro hagree x hx hne hext
    -- a file a.x shows a difference for any extension x that the watcher misses
    have hname : (String.ofList ('a' :: '.' :: (undotted x).toList)).toList =
        'a' :: '.' :: (undotted x).toList := String.toList_ofList
    have he := extension?_of_toList hname hext
    have harticle : hasExtension o.corpus.extensions _ = true :=
      hasExtension_iff.2 ⟨_, he, undotted x, mem_corpus_extensions.2 ⟨hne, x, hx, rfl⟩,
        sameLetters_refl _⟩
    rw [← hagree] at harticle
    obtain ⟨e, he', y, hy, hsame⟩ := hasExtension_iff.1 harticle
    rw [he] at he'
    cases he'
    exact ⟨y, hy, hsame⟩

end CommandLine.CorpusOptions

/-! ### Recorded changes -/

namespace ChangeBatch

/-- A change of a path that is not in the batch is recorded if the path has an extension of the list. -/
theorem record_fst_of_new {batch : ChangeBatch} {extensions : List String} {path : String}
    {kind : ChangeKind} (hkind : kind ≠ .other) (hnew : Path.parts path ∉ batch.paths) (now : Nat) :
    (batch.record extensions ⟨kind, [path]⟩ now).1 =
      DirectoryCorpus.hasExtension extensions path := by
  rw [record, relevant, if_neg hkind]
  cases hext : DirectoryCorpus.hasExtension extensions path with
  | false => simp [hext]
  | true => simp [hext, hnew]

end ChangeBatch

namespace CommandLine.CorpusOptions

open DirectoryCorpus

/-- The corpus and the watch agree on every path, and every change of an article that is not in the
batch yet is recorded while changes of other files are not, if and only if the entries of the list that
begin with dots are covered. -/
theorem watched_iff_article_iff (o : CorpusOptions) :
    o.CoversDotted ↔
      ∀ path, hasExtension o.extensionList path = hasExtension o.corpus.extensions path ∧
        ∀ (batch : ChangeBatch) (kind : ChangeKind) (now : Nat), kind ≠ .other →
          Path.parts path ∉ batch.paths →
            (batch.record o.extensionList ⟨kind, [path]⟩ now).1 =
              hasExtension o.corpus.extensions path := by
  rw [coversDotted_iff]
  constructor
  · intro hagree path
    refine ⟨hagree path, fun batch kind now hkind hnew => ?_⟩
    rw [← hagree path]
    exact ChangeBatch.record_fst_of_new hkind hnew now
  · exact fun h path => (h path).1

set_option maxRecDepth 100000 in
theorem isLowered_md : ∀ c ∈ ['.', 'm', 'd'], IsLowered c := by
  have hpoints : ∀ n ∈ [0x2E, 0x6D, 0x64], Unicode.lowercase.imageOf n = [n] := by decide +kernel
  intro c hc
  have hne : c ≠ 'Σ' := by
    rintro rfl
    revert hc
    decide
  refine ⟨hne, Unicode.image_of_imageOf_eq_self (hpoints c.toNat ?_)⟩
  simp only [List.mem_cons, List.not_mem_nil, or_false] at hc
  rcases hc with rfl | rfl | rfl
  · decide
  · decide
  · decide

theorem extensionList_md :
    (⟨"corpus", ".md", ⟨false, false⟩⟩ : CorpusOptions).extensionList = [".md"] := by
  have hentry : lower (trim ['.', 'm', 'd']) = ['.', 'm', 'd'] := lower_of_isLowered isLowered_md
  have hsplit : Text.splitAt ',' ['.', 'm', 'd'] = [['.', 'm', 'd']] := by decide
  have hchars : ".md".toList = ['.', 'm', 'd'] := by decide
  simp [extensionList, hchars, hsplit, hentry]

/-- With the list `.md` the articles are those that end in `.md`, and no change of them is noticed. -/
theorem not_watched_iff_article :
    ¬ ∀ (o : CorpusOptions) (path : String),
      hasExtension o.extensionList path = hasExtension o.corpus.extensions path := by
  intro hagree
  have hcover := (coversDotted_iff ⟨"corpus", ".md", ⟨false, false⟩⟩).2 (hagree _)
  have hmem : ".md" ∈ (⟨"corpus", ".md", ⟨false, false⟩⟩ : CorpusOptions).extensionList := by
    rw [extensionList_md]
    exact List.mem_singleton_self _
  obtain ⟨y, hy, hsame⟩ := hcover ".md" hmem (by decide) (by decide)
  rw [extensionList_md, List.mem_singleton] at hy
  subst hy
  revert hsame
  decide

end CommandLine.CorpusOptions

end Concordance
