/-!
# Outcomes

A computation of two parts gives a value if and only if both of them do, and fails with the first fault
that there is. Where only one fault can come up, a computation of many parts fails if some part does
(`FailsIff`).
-/

namespace Concordance

variable {ε α β : Type} {x : Except ε α} {f : α → Except ε β}

theorem ok_bind (a : α) (f : α → Except ε β) : (Except.ok a >>= f) = f a :=
  rfl

/-- Two steps succeed if the first one does and the second one with what it gave. -/
theorem bind_eq_ok {b : β} : (x >>= f) = .ok b ↔ ∃ a, x = .ok a ∧ f a = .ok b := by
  cases x with
  | error fault =>
    constructor
    · intro h
      cases h
    · rintro ⟨a, ha, -⟩
      cases ha
  | ok a =>
    constructor
    · exact fun h => ⟨a, rfl, h⟩
    · rintro ⟨_, ha, h⟩
      cases ha
      exact h

/-- Two steps fail if the first one does, or the second one with what the first one gave. -/
theorem bind_eq_error {e : ε} :
    (x >>= f) = .error e ↔ x = .error e ∨ ∃ a, x = .ok a ∧ f a = .error e := by
  cases x with
  | error fault =>
    constructor
    · exact fun h => .inl (by cases h; rfl)
    · rintro (h | ⟨a, ha, -⟩)
      · cases h
        rfl
      · cases ha
  | ok a =>
    constructor
    · exact fun h => .inr ⟨a, rfl, h⟩
    · rintro (h | ⟨_, ha, h⟩)
      · cases h
      · cases ha
        exact h

theorem map_eq_ok {g : α → β} {b : β} : x.map g = .ok b ↔ ∃ a, x = .ok a ∧ g a = b := by
  cases x with
  | error fault =>
    constructor
    · intro h
      cases h
    · rintro ⟨a, ha, -⟩
      cases ha
  | ok a =>
    constructor
    · intro h
      cases h
      exact ⟨a, rfl, rfl⟩
    · rintro ⟨_, ha, rfl⟩
      cases ha
      rfl

theorem map_eq_error {g : α → β} {e : ε} : x.map g = .error e ↔ x = .error e := by
  cases x with
  | error fault =>
    constructor
    · intro h
      cases h
      rfl
    · intro h
      cases h
      rfl
  | ok a =>
    constructor
    · intro h
      cases h
    · intro h
      cases h

theorem toOption_eq_some {a : α} : x.toOption = some a ↔ x = .ok a := by
  cases x with
  | error fault =>
    constructor
    · intro h
      cases h
    · intro h
      cases h
  | ok b =>
    constructor
    · intro h
      cases h
      rfl
    · intro h
      cases h
      rfl

theorem mapError_eq_ok {ε' : Type} {g : ε → ε'} {a : α} : x.mapError g = .ok a ↔ x = .ok a := by
  cases x with
  | error fault =>
    constructor
    · intro h
      cases h
    · intro h
      cases h
  | ok a =>
    constructor
    · intro h
      cases h
      rfl
    · intro h
      cases h
      rfl

/-- What every step keeps, a run keeps. -/
theorem foldlM_invariant {step : β → α → Except ε β} {P : β → Prop}
    (hstep : ∀ b a next, step b a = .ok next → P b → P next) {items : List α} {b last : β}
    (h : items.foldlM step b = .ok last) (hb : P b) : P last := by
  induction items generalizing b with
  | nil =>
      cases h
      exact hb
  | cons a items ih =>
      rw [List.foldlM_cons] at h
      obtain ⟨next, hnext, hrest⟩ := bind_eq_ok.1 h
      exact ih hrest (hstep b a next hnext hb)

/-! ### One fault -/

/-- The computation gives `value`, unless `P` holds; then it fails with `fault`. -/
structure FailsIff (fault : ε) (P : Prop) (x : Except ε α) (value : α) : Prop where
  failed : P → x = .error fault
  done : ¬P → x = .ok value

namespace FailsIff

variable {fault : ε} {P Q : Prop} {a : α} {b : β} {items : List α}

theorem of_eq_ok (h : x = .ok a) : FailsIff fault False x a :=
  ⟨False.elim, fun _ => h⟩

theorem eq_ok_iff (h : FailsIff fault P x a) : x = .ok a ↔ ¬P := by
  refine ⟨fun hok hP => ?_, h.done⟩
  rw [h.failed hP] at hok
  cases hok

theorem congr (h : FailsIff fault P x a) (hPQ : P ↔ Q) : FailsIff fault Q x a :=
  ⟨fun hQ => h.failed (hPQ.2 hQ), fun hQ => h.done fun hP => hQ (hPQ.1 hP)⟩

theorem bind (h : FailsIff fault P x a) (hf : FailsIff fault Q (f a) b) :
    FailsIff fault (P ∨ Q) (x >>= f) b := by
  by_cases hP : P
  · refine ⟨fun _ => ?_, fun h => absurd (.inl hP) h⟩
    rw [h.failed hP]
    rfl
  · rw [h.done hP, ok_bind]
    exact hf.congr (or_iff_right hP).symm

theorem map (h : FailsIff fault P x a) (g : α → β) : FailsIff fault P (x >>= fun a => .ok (g a)) (g a) :=
  (h.bind (f := fun a => .ok (g a)) (of_eq_ok rfl)).congr (by rw [or_false])

/-- A run over items fails if a step does. -/
theorem foldlM {step : β → α → Except ε β} {next : β → α → β} {fails : α → Prop}
    (h : ∀ b, ∀ a ∈ items, FailsIff fault (fails a) (step b a) (next b a)) (b : β) :
    FailsIff fault (∃ a ∈ items, fails a) (items.foldlM step b) (items.foldl next b) := by
  induction items generalizing b with
  | nil => exact (of_eq_ok rfl).congr (by simp)
  | cons a items ih =>
      have hrest := ih fun b a ha => h b a (List.mem_cons_of_mem _ ha)
      rw [List.foldlM_cons, List.foldl_cons]
      exact ((h b a List.mem_cons_self).bind (hrest _)).congr (by simp)

theorem mapM {f : α → Except ε β} {g : α → β} {fails : α → Prop}
    (h : ∀ a ∈ items, FailsIff fault (fails a) (f a) (g a)) :
    FailsIff fault (∃ a ∈ items, fails a) (items.mapM f) (items.map g) := by
  induction items with
  | nil => exact (of_eq_ok rfl).congr (by simp)
  | cons a items ih =>
      have hrest := ih fun a ha => h a (List.mem_cons_of_mem _ ha)
      rw [List.mapM_cons, List.map_cons]
      exact ((h a List.mem_cons_self).bind (hrest.map _)).congr (by simp)

theorem forM {f : α → Except ε PUnit} {fails : α → Prop}
    (h : ∀ a ∈ items, FailsIff fault (fails a) (f a) ⟨⟩) :
    FailsIff fault (∃ a ∈ items, fails a) (items.forM f) ⟨⟩ := by
  induction items with
  | nil => exact (of_eq_ok rfl).congr (by simp)
  | cons a items ih =>
      have hrest := ih fun a ha => h a (List.mem_cons_of_mem _ ha)
      exact ((h a List.mem_cons_self).bind (f := fun _ => items.forM f) hrest).congr (by simp)

theorem filterM {test : α → Except ε Bool} {p : α → Bool} {fails : α → Prop}
    (h : ∀ a ∈ items, FailsIff fault (fails a) (test a) (p a)) :
    FailsIff fault (∃ a ∈ items, fails a) (items.filterM test) (items.filter p) := by
  -- the library filters backwards, behind what it has kept already
  have haux (kept : List α) : FailsIff fault (∃ a ∈ items, fails a) (List.filterAuxM test items kept)
      ((items.filter p).reverse ++ kept) := by
    induction items generalizing kept with
    | nil => exact (of_eq_ok rfl).congr (by simp)
    | cons a items ih =>
        have hrest := ih fun a ha => h a (List.mem_cons_of_mem _ ha)
        have hstep := hrest (cond (p a) (a :: kept) kept)
        have hkept : (items.filter p).reverse ++ cond (p a) (a :: kept) kept =
            ((a :: items).filter p).reverse ++ kept := by
          rw [List.filter_cons]
          cases p a with
          | true => simp
          | false => rfl
        rw [hkept] at hstep
        exact ((h a List.mem_cons_self).bind hstep).congr (by simp)
  have hall := (haux []).map List.reverse
  rw [List.append_nil, List.reverse_reverse] at hall
  exact hall

end FailsIff

/-! ### No fault -/

section NoFault

variable [Inhabited ε] {items : List α}

theorem foldlM_eq_ok {step : β → α → Except ε β} {next : β → α → β}
    (h : ∀ b, ∀ a ∈ items, step b a = .ok (next b a)) (b : β) :
    items.foldlM step b = .ok (items.foldl next b) := by
  have hrun : FailsIff default (∃ a ∈ items, False) (items.foldlM step b) (items.foldl next b) :=
    FailsIff.foldlM (fun b a ha => FailsIff.of_eq_ok (h b a ha)) b
  exact hrun.done (by simp)

theorem mapM_eq_ok {g : α → β} (h : ∀ a ∈ items, f a = .ok (g a)) :
    items.mapM f = .ok (items.map g) := by
  have hrun : FailsIff default (∃ a ∈ items, False) (items.mapM f) (items.map g) :=
    FailsIff.mapM fun a ha => FailsIff.of_eq_ok (h a ha)
  exact hrun.done (by simp)

/-- A filter whose tests all give answers is a filter. -/
theorem filterM_eq_ok {test : α → Except ε Bool} {p : α → Bool} (h : ∀ a ∈ items, test a = .ok (p a)) :
    items.filterM test = .ok (items.filter p) := by
  have hrun : FailsIff default (∃ a ∈ items, False) (items.filterM test) (items.filter p) :=
    FailsIff.filterM fun a ha => FailsIff.of_eq_ok (h a ha)
  exact hrun.done (by simp)

end NoFault

end Concordance
