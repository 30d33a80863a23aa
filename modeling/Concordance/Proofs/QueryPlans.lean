import Concordance.Query
import Mathlib.Data.List.Induction
import Mathlib.Data.List.Nodup

/-!
# What a planned query looks like

Terms and phrases are gathered without repeats, and a phrase has at least two terms.
-/

namespace Concordance

section AddNew

variable {α : Type} [BEq α] [LawfulBEq α]

@[simp] theorem mem_addNew {items : List α} {item x : α} : x ∈ addNew items item ↔ x ∈ items ∨ x = item := by
  rw [addNew]
  split
  · next h =>
      rw [List.contains_iff_mem] at h
      exact ⟨.inl, fun hx => hx.elim id fun heq => heq ▸ h⟩
  · simp

/-- Adding items one after the other keeps the first of equal ones. -/
theorem foldl_addNew (items : List α) : items.foldl addNew [] = items.eraseDups := by
  induction items using List.reverseRecOn with
  | nil => rfl
  | append_singleton items item ih =>
      rw [List.foldl_append, List.foldl_cons, List.foldl_nil, ih, List.eraseDups_append, addNew]
      by_cases hmem : item ∈ items
      · have hnone : [item].removeAll items = [] := by simp [List.removeAll, hmem]
        rw [if_pos (by simpa using hmem), hnone, List.eraseDups_nil, List.append_nil]
      · have hsome : [item].removeAll items = [item] := by simp [List.removeAll, hmem]
        rw [if_neg (by simpa using hmem), hsome, List.eraseDups_cons]
        rfl

theorem mem_foldl_addNew {items new : List α} {x : α} :
    x ∈ new.foldl addNew items ↔ x ∈ items ∨ x ∈ new := by
  induction new generalizing items with
  | nil => simp
  | cons item new ih => rw [List.foldl_cons, ih, mem_addNew, List.mem_cons, or_assoc]

/-! ### First of equals -/

variable {β : Type} [BEq β] [LawfulBEq β] {items : List α} {item : α}

theorem addNew_of_not_mem (h : item ∉ items) : addNew items item = items ++ [item] := by
  rw [addNew, if_neg (by simpa using h)]

theorem nodup_addNew (h : items.Nodup) (item : α) : (addNew items item).Nodup := by
  by_cases hmem : item ∈ items
  · rwa [addNew, if_pos (by simpa using hmem)]
  · rw [addNew_of_not_mem hmem, ← List.concat_eq_append]
    exact h.concat hmem

theorem nodup_foldl_addNew (h : items.Nodup) (new : List α) : (new.foldl addNew items).Nodup :=
  List.foldlRecOn new _ h fun _ hitems item _ => nodup_addNew hitems item

theorem length_le_length_foldl_addNew (items new : List α) :
    items.length ≤ (new.foldl addNew items).length := by
  refine List.foldlRecOn (motive := fun found : List α => items.length ≤ found.length) new _ (Nat.le_refl _) ?_
  intro found hfound item _
  by_cases hmem : item ∈ found
  · rwa [addNew, if_pos (by simpa using hmem)]
  · rw [addNew_of_not_mem hmem, List.length_append]
    exact Nat.le_add_right_of_le hfound

/-- Adding makes a list longer if something that is added is not in it. -/
theorem length_lt_length_foldl_addNew_iff {items new : List α} :
    items.length < (new.foldl addNew items).length ↔ ∃ x ∈ new, x ∉ items := by
  induction new with
  | nil => simp
  | cons item new ih =>
      by_cases hmem : item ∈ items
      · have hsame : addNew items item = items := by rw [addNew, if_pos (by simpa using hmem)]
        rw [List.foldl_cons, hsame, ih]
        simp [hmem]
      · refine iff_of_true ?_ ⟨item, List.mem_cons_self, hmem⟩
        have hlonger := length_le_length_foldl_addNew (addNew items item) new
        rw [addNew_of_not_mem hmem, List.length_append] at hlonger
        rw [List.foldl_cons, addNew_of_not_mem hmem]
        exact hlonger

theorem map_addNew {f : α → β} (hf : Function.Injective f) (items : List α) (item : α) :
    (addNew items item).map f = addNew (items.map f) (f item) := by
  have hsame : (items.map f).contains (f item) = items.contains item := by
    rw [Bool.eq_iff_iff, List.contains_iff_mem, List.contains_iff_mem, List.mem_map_of_injective hf]
  rw [addNew, addNew, hsame]
  split
  · rfl
  · rw [List.map_append, List.map_singleton]

theorem eraseDups_concat (items : List α) (item : α) :
    (items ++ [item]).eraseDups = addNew items.eraseDups item := by
  rw [← foldl_addNew, List.foldl_append, foldl_addNew, List.foldl_cons, List.foldl_nil]

theorem nodup_eraseDups (items : List α) : items.eraseDups.Nodup := by
  induction items using List.reverseRecOn with
  | nil => exact List.nodup_nil
  | append_singleton items item ih =>
      rw [eraseDups_concat]
      exact nodup_addNew ih item

theorem eraseDups_of_nodup (h : items.Nodup) : items.eraseDups = items := by
  induction items using List.reverseRecOn with
  | nil => rfl
  | append_singleton items item ih =>
      obtain ⟨hitems, -, hnew⟩ := List.nodup_append.1 h
      have hmem : item ∉ items := fun hmem => hnew item hmem item List.mem_cons_self rfl
      rw [eraseDups_concat, ih hitems, addNew_of_not_mem hmem]

theorem eraseDups_map {f : α → β} (hf : Function.Injective f) (items : List α) :
    (items.map f).eraseDups = items.eraseDups.map f := by
  induction items using List.reverseRecOn with
  | nil => rfl
  | append_singleton items item ih =>
      rw [List.map_append, List.map_singleton, eraseDups_concat, ih, eraseDups_concat, map_addNew hf]

theorem eraseDups_eq_nil_iff : items.eraseDups = [] ↔ items = [] := by
  simp only [List.eq_nil_iff_forall_not_mem, List.mem_eraseDups]

end AddNew

/-! ### Plans -/

namespace Plan

theorem two_le_length_of_ofTerms? {terms ts : List String}
    (h : Clause.ofTerms? terms = some (.phrase ts)) : 2 ≤ ts.length := by
  match terms, h with
  | [], h => cases h
  | [_], h => cases h
  | _ :: _ :: _, h =>
      cases h
      simp

/-- A single term is kept: stop words are only dropped beside something else. -/
@[simp] theorem query_term (t : String) (mode : MatchMode) :
    (⟨mode, [t], [], []⟩ : Plan).query = ⟨[.term t], mode⟩ := by
  have hkept : (⟨mode, [t], [], []⟩ : Plan).keptTerms = [t] := by
    cases hstop : isStopWord t with
    | true => simp [Plan.keptTerms, Plan.hasContent, hstop]
    | false => simp [Plan.keptTerms, Plan.hasContent, hstop]
  rw [Plan.query, hkept]
  rfl

@[simp] theorem query_quoted_term (t : String) (mode : MatchMode) :
    (⟨mode, [t], [t], []⟩ : Plan).query = ⟨[.term t], mode⟩ := by
  have hkept : (⟨mode, [t], [t], []⟩ : Plan).keptTerms = [t] := by
    simp [Plan.keptTerms, Plan.hasContent]
  rw [Plan.query, hkept]
  rfl

variable [Text.CharacterTable] {config : TokenizerConfig} {plan : Plan}

/-- The phrases of a plan are phrases of at least two terms. -/
def PhrasesRead (plan : Plan) : Prop :=
  ∀ clause ∈ plan.phrases, ∃ ts, clause = .phrase ts ∧ 2 ≤ ts.length

@[simp] theorem readWord_phrases (plan : Plan) (word : List Char) :
    (plan.readWord config word).phrases = plan.phrases := by
  rw [readWord]
  split
  · rfl
  · split
    · rfl
    · rfl

/-- A quotation gives a phrase of at least two terms, or none. -/
theorem phrasesRead_readQuoted (h : plan.PhrasesRead) (text : List Char) :
    (plan.readQuoted config text).PhrasesRead := by
  rw [readQuoted]
  split
  · exact h
  · next phrase hterm hclause =>
      intro clause hmem
      rcases mem_addNew.1 hmem with hmem | rfl
      · exact h clause hmem
      · cases clause with
        | term t => exact absurd rfl (hterm t)
        | phrase ts => exact ⟨ts, rfl, two_le_length_of_ofTerms? hclause⟩
  · exact h

@[simp] theorem foldl_readWord_phrases (words : List (List Char)) (plan : Plan) :
    (words.foldl (readWord config) plan).phrases = plan.phrases := by
  induction words generalizing plan with
  | nil => rfl
  | cons word rest ih => rw [List.foldl_cons, ih, readWord_phrases]

/-- Only quotations give phrases, so those of a whole text have at least two terms. -/
theorem phrasesRead_readPieces (config : TokenizerConfig) (h : plan.PhrasesRead) (quoted : Bool)
    (pieces : List (List Char)) :
    (plan.readPieces config quoted pieces).PhrasesRead := by
  induction pieces generalizing plan quoted with
  | nil => exact h
  | cons piece rest ih =>
      rw [readPieces]
      apply ih
      cases quoted with
      | true => exact phrasesRead_readQuoted h piece
      | false =>
          intro clause hmem
          simp only [Bool.false_eq_true, if_false, foldl_readWord_phrases] at hmem
          exact h clause hmem

end Plan

/-- A phrase of a planned query has at least two terms. -/
theorem Query.two_le_length_of_mem [Text.CharacterTable] {config : TokenizerConfig} {text : String}
    {mode : MatchMode} {asPhrase : Bool} {query : Query}
    (h : Query.parse config text mode asPhrase = .ok query) {ts : List String}
    (hmem : Clause.phrase ts ∈ query.clauses) : 2 ≤ ts.length := by
  rw [Query.parse] at h
  split at h
  · cases h
    exact Plan.two_le_length_of_ofTerms? (Option.mem_toList.1 hmem)
  · split at h
    · cases h
    · cases h
      rcases List.mem_append.1 hmem with hterm | hphrase
      · obtain ⟨t, -, ht⟩ := List.mem_map.1 hterm
        cases ht
      · -- no phrase is noted before the text is read, and each piece notes none shorter than two terms
        have hstart : (⟨mode, [], [], []⟩ : Plan).PhrasesRead := fun _ hc => nomatch hc
        have hread := Plan.phrasesRead_readPieces config hstart false
          (Text.splitAt '"' text.toList)
        obtain ⟨ts', heq, hlength⟩ := hread _ hphrase
        cases heq
        exact hlength

end Concordance
