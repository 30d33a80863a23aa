import Concordance.Index.Basic
import Concordance.Proofs.Occurrences
import Concordance.Proofs.SortedMaps

/-!
# The terms of a document at their positions

An index counts the terms of a title and of a body on one row of positions, with a gap between them. Read
as a list, the row holds a term at each position that is taken and nothing at those of the gap. What the
index records of a term is the list of the positions at which the row holds it.
-/

namespace Concordance

open Text

variable [CharacterTable] (config : TokenizerConfig)

/-- The terms of a text, run by run. -/
theorem TokenizerConfig.terms_eq (text : String) :
    config.terms text =
      ((runsFrom .start text.toList).flatMap config.termsOfRun).map fun item =>
        String.ofList item.1 := by
  rw [TokenizerConfig.terms, TokenizerConfig.spans, TokenizerConfig.spansOf, List.map_map]
  conv_rhs => rw [← List.zipIdx_map_fst 0 (List.flatMap _ _), List.map_map]
  rfl

theorem TokenizerConfig.tokenize_eq (text : String) :
    config.tokenize text =
      (config.terms text).zipIdx.map fun (t, place) => (t, UInt32.ofNat place) := by
  rw [TokenizerConfig.terms_eq, TokenizerConfig.tokenize, TokenizerConfig.spans,
    TokenizerConfig.spansOf, List.map_map, List.zipIdx_map, List.map_map]
  rfl

namespace Index

/-- The number of positions between a title and a body; there are none before the body if the title has
no terms. -/
def gapBehind (title : List String) : Nat :=
  if title.length = 0 then 0 else titleGap.toNat

def layout (document : Document) : List (Option String) :=
  let title := config.terms document.title
  title.map some ++ List.replicate (gapBehind title) none ++
    (config.terms document.body).map some

def termTotal (document : Document) : Nat :=
  (config.terms document.title).length + (config.terms document.body).length

/-- The document is small enough for its positions to be counted in 32 bits. -/
def Fits (document : Document) : Prop :=
  termTotal config document + titleGap.toNat < 2 ^ 32

instance (document : Document) : Decidable (Fits config document) :=
  inferInstanceAs (Decidable (_ < _))

def placesOf (t : String) (document : Document) : List Nat :=
  (layout config document).findIdxs (· == some t)

variable {config} {document : Document} {t : String}

theorem length_layout_le (config : TokenizerConfig) (document : Document) :
    (layout config document).length ≤ termTotal config document + titleGap.toNat := by
  simp only [layout, gapBehind, termTotal, List.length_append, List.length_map,
    List.length_replicate]
  split <;> omega

theorem mem_layout_iff :
    some t ∈ layout config document ↔
      t ∈ config.terms document.title ∨ t ∈ config.terms document.body := by
  simp [layout, List.mem_replicate]

/-- No occurrence of a pattern reaches from the title into the body. -/
theorem occurrences_layout {pattern : List String} (hne : pattern ≠ []) :
    occurrences (pattern.map some) (layout config document) =
      occurrences pattern (config.terms document.title) +
        occurrences pattern (config.terms document.body) := by
  have hne' : pattern.map some ≠ [] := by simpa using hne
  have hnone : none ∉ pattern.map some := by simp
  have hinj : Function.Injective (some : String → Option String) := fun a b h => Option.some.inj h
  rw [layout, gapBehind, List.append_assoc]
  cases htitle : config.terms document.title with
  | nil =>
      simp [occurrences_map hinj, occurrences_nil hne]
  | cons s rest =>
      -- the first place of the gap is the separator
      have hgap : List.replicate titleGap.toNat (none : Option String) =
          none :: List.replicate 15 none := rfl
      rw [if_neg (by simp), hgap, List.cons_append, occurrences_append_separator hne' hnone,
        occurrences_replicate_append hne' hnone, occurrences_map hinj, occurrences_map hinj]

theorem placesOf_eq_nil_iff :
    placesOf config t document = [] ↔
      t ∉ config.terms document.title ∧ t ∉ config.terms document.body := by
  rw [← not_or, ← mem_layout_iff, placesOf, List.findIdxs_eq_nil_iff]
  simp only [beq_eq_false_iff_ne]
  exact ⟨fun h hmem => h _ hmem rfl, fun h x hx heq => h (heq ▸ hx)⟩

theorem lt_of_mem_placesOf {place : Nat} (h : place ∈ placesOf config t document) :
    place < (layout config document).length := by
  simpa using List.lt_add_of_mem_findIdxs place h

theorem mem_placesOf_iff {place : Nat} :
    place ∈ placesOf config t document ↔ (layout config document)[place]? = some (some t) := by
  rw [placesOf, List.mem_findIdxs_iff_exists_getElem_pos, List.getElem?_eq_some_iff]
  simp

/-- The positions of a term are those in the title and, behind the gap, those in the body. -/
theorem placesOf_eq_append (t : String) (document : Document) :
    placesOf config t document =
      (config.terms document.title).findIdxs (· == t) ++
        (config.terms document.body).findIdxs (· == t)
          ((config.terms document.title).length + gapBehind (config.terms document.title)) := by
  have hgap (n s : Nat) :
      (List.replicate n (none : Option String)).findIdxs (· == some t) s = [] := by
    rw [List.findIdxs_eq_nil_iff]
    intro x hx
    rw [List.eq_of_mem_replicate hx]
    rfl
  have hsome : (fun x : Option String => x == some t) ∘ some = fun s => s == t := by
    funext s
    simp
  rw [placesOf, layout, List.findIdxs_append, List.findIdxs_append, hgap, List.append_nil,
    List.findIdxs_map, List.findIdxs_map, hsome]
  simp

@[simp] theorem length_placesOf (t : String) (document : Document) :
    (placesOf config t document).length =
      (config.terms document.title).count t + (config.terms document.body).count t := by
  rw [placesOf_eq_append, List.length_append, List.length_findIdxs, List.length_findIdxs]
  rfl

end Index

end Concordance
