import Concordance.ChangeBatch
import Concordance.Proofs.QueryPlans

/-!
# Changes that are pending

A batch is told by what was done to it since it was cleared last: it holds the paths of the articles that
the events since then may have changed, each once, and the time of the first of these events. Later events
never move that time, so a batch to which events keep coming is overdue as soon as any other
(`pending_changes`).
-/

namespace Concordance

/-- What stands in a list with one more item: the last item, or what stands in the list without it. -/
theorem append_singleton_eq_iff {α : Type} {items before behind : List α} {last item : α} :
    items ++ [last] = before ++ item :: behind ↔
      (behind = [] ∧ before = items ∧ item = last) ∨
        ∃ rest, behind = rest ++ [last] ∧ items = before ++ item :: rest := by
  constructor
  · intro h
    rcases List.eq_nil_or_concat' behind with rfl | ⟨rest, x, rfl⟩
    · obtain ⟨rfl, hitem⟩ := List.append_inj' h rfl
      exact .inl ⟨rfl, rfl, (List.singleton_inj.1 hitem).symm⟩
    · rw [← List.cons_append, ← List.append_assoc] at h
      obtain ⟨rfl, hlast⟩ := List.append_inj' h rfl
      cases hlast
      exact .inr ⟨rest, rfl, rfl⟩
  · rintro (⟨rfl, rfl, rfl⟩ | ⟨rest, rfl, rfl⟩)
    · rfl
    · simp

namespace ChangeBatch

inductive Step where
  | record (extensions : List String) (event : ChangeEvent) (now : Nat)
  | clear

def times (steps : List Step) : List Nat :=
  steps.filterMap fun
    | .record _ _ now => some now
    | .clear => none

/-- The event was recorded behind the steps `before`, and the batch was not cleared afterwards. -/
def Recorded (steps before : List Step) (extensions : List String) (event : ChangeEvent) (now : Nat) : Prop :=
  ∃ behind, steps = before ++ .record extensions event now :: behind ∧ Step.clear ∉ behind

section Recorded

variable {steps before : List Step} {extensions extensions' : List String} {event event' : ChangeEvent}
variable {now now' : Nat}

theorem not_recorded_nil : ¬Recorded [] before extensions event now := by
  rintro ⟨behind, h, -⟩
  cases before <;> cases h

theorem not_recorded_clear : ¬Recorded (steps ++ [.clear]) before extensions event now := by
  rintro ⟨behind, h, hclear⟩
  rcases append_singleton_eq_iff.1 h with ⟨-, -, h⟩ | ⟨rest, rfl, -⟩
  · cases h
  · exact hclear (List.mem_append_right rest List.mem_cons_self)

/-- A further event is recorded, and so are the events before it. -/
theorem recorded_record :
    Recorded (steps ++ [.record extensions event now]) before extensions' event' now' ↔
      Recorded steps before extensions' event' now' ∨
        (before = steps ∧ extensions' = extensions ∧ event' = event ∧ now' = now) := by
  constructor
  · rintro ⟨behind, h, hclear⟩
    rcases append_singleton_eq_iff.1 h with ⟨rfl, rfl, heq⟩ | ⟨rest, rfl, rfl⟩
    · cases heq
      exact .inr ⟨rfl, rfl, rfl, rfl⟩
    · exact .inl ⟨rest, rfl, fun hmem => hclear (List.mem_append_left _ hmem)⟩
  · rintro (⟨behind, rfl, hclear⟩ | ⟨rfl, rfl, rfl, rfl⟩)
    · refine ⟨behind ++ [.record extensions event now], by simp, ?_⟩
      simpa using hclear
    · exact ⟨[], rfl, List.not_mem_nil⟩

theorem Recorded.append (h : Recorded steps before extensions event now) {later : List Step}
    (hclear : Step.clear ∉ later) : Recorded (steps ++ later) before extensions event now := by
  obtain ⟨behind, rfl, hbehind⟩ := h
  refine ⟨behind ++ later, by simp, ?_⟩
  rw [List.mem_append, not_or]
  exact ⟨hbehind, hclear⟩

theorem Recorded.mem (h : Recorded steps before extensions event now) :
    .record extensions event now ∈ steps := by
  obtain ⟨behind, rfl, -⟩ := h
  exact List.mem_append_right before List.mem_cons_self

end Recorded

end ChangeBatch

/-- The event may have changed an article with one of the extensions at this path. -/
def ChangeEvent.Touches (event : ChangeEvent) (extensions : List String) (p : List PathPart) : Prop :=
  event.kind ∈ [ChangeKind.created, .modified, .removed] ∧
    ∃ path ∈ event.paths, DirectoryCorpus.hasExtension extensions path = true ∧ Path.parts path = p

namespace ChangeBatch

def next (batch : ChangeBatch) : Step → ChangeBatch
  | .record extensions event now => (batch.record extensions event now).2
  | .clear => batch.clear

def ofSteps (steps : List Step) : ChangeBatch :=
  steps.foldl next {}

/-- An event touched the path since the batch was cleared last. -/
def Pending (steps : List Step) (p : List PathPart) : Prop :=
  ∃ before extensions event now, Recorded steps before extensions event now ∧ event.Touches extensions p

/-- The first event since the batch was cleared last that touched a path came at this time. -/
def BeganAt (steps : List Step) (now : Nat) : Prop :=
  ∃ before extensions event, Recorded steps before extensions event now ∧
    (∃ p, event.Touches extensions p) ∧ ∀ p, ¬Pending before p

section

variable {steps : List Step} {extensions : List String} {event : ChangeEvent} {p : List PathPart} {now t : Nat}

/-! ### One more step -/

theorem not_pending_nil : ¬Pending [] p :=
  fun ⟨_, _, _, _, h, _⟩ => not_recorded_nil h

theorem not_pending_clear : ¬Pending (steps ++ [.clear]) p :=
  fun ⟨_, _, _, _, h, _⟩ => not_recorded_clear h

theorem pending_record :
    Pending (steps ++ [.record extensions event now]) p ↔ Pending steps p ∨ event.Touches extensions p := by
  constructor
  · rintro ⟨before, extensions', event', now', h, htouch⟩
    rcases recorded_record.1 h with h | ⟨rfl, rfl, rfl, rfl⟩
    · exact .inl ⟨before, extensions', event', now', h, htouch⟩
    · exact .inr htouch
  · rintro (⟨before, extensions', event', now', h, htouch⟩ | htouch)
    · exact ⟨before, extensions', event', now', recorded_record.2 (.inl h), htouch⟩
    · exact ⟨steps, extensions, event, now, recorded_record.2 (.inr ⟨rfl, rfl, rfl, rfl⟩), htouch⟩

theorem not_beganAt_nil : ¬BeganAt [] t :=
  fun ⟨_, _, _, h, _⟩ => not_recorded_nil h

theorem not_beganAt_clear : ¬BeganAt (steps ++ [.clear]) t :=
  fun ⟨_, _, _, h, _⟩ => not_recorded_clear h

/-- A further event is the first one since the batch was cleared if it touches a path and nothing is pending. -/
theorem beganAt_record :
    BeganAt (steps ++ [.record extensions event now]) t ↔
      BeganAt steps t ∨ (t = now ∧ (∃ p, event.Touches extensions p) ∧ ∀ p, ¬Pending steps p) := by
  constructor
  · rintro ⟨before, extensions', event', h, htouch, hfirst⟩
    rcases recorded_record.1 h with h | ⟨rfl, rfl, rfl, rfl⟩
    · exact .inl ⟨before, extensions', event', h, htouch, hfirst⟩
    · exact .inr ⟨rfl, htouch, hfirst⟩
  · rintro (⟨before, extensions', event', h, htouch, hfirst⟩ | ⟨rfl, htouch, hfirst⟩)
    · exact ⟨before, extensions', event', recorded_record.2 (.inl h), htouch, hfirst⟩
    · exact ⟨steps, extensions, event, recorded_record.2 (.inr ⟨rfl, rfl, rfl, rfl⟩), htouch, hfirst⟩

theorem mem_relevant_iff : p ∈ relevant extensions event ↔ event.Touches extensions p := by
  have hkind : event.kind ∈ [ChangeKind.created, .modified, .removed] ↔ event.kind ≠ .other := by
    cases event.kind <;> decide
  rw [relevant, ChangeEvent.Touches, hkind]
  split
  · next h => simp [h]
  · next h => simp [h, and_assoc]

variable {batch : ChangeBatch}

theorem record_eq (batch : ChangeBatch) (extensions : List String) (event : ChangeEvent) (now : Nat) :
    batch.record extensions event now =
      let paths := (relevant extensions event).foldl addNew batch.paths
      let recorded := decide (batch.paths.length < paths.length)
      (recorded, ⟨paths, if recorded then batch.firstChange.or (some now) else batch.firstChange⟩) :=
  rfl

theorem mem_paths_record :
    p ∈ (batch.record extensions event now).2.paths ↔ p ∈ batch.paths ∨ event.Touches extensions p := by
  rw [record_eq, ← mem_relevant_iff]
  exact mem_foldl_addNew

/-- An event is told to be recorded if it touches a path that is not in the batch. -/
theorem record_fst_iff :
    (batch.record extensions event now).1 = true ↔ ∃ p, event.Touches extensions p ∧ p ∉ batch.paths := by
  rw [record_eq]
  simp only [decide_eq_true_eq, length_lt_length_foldl_addNew_iff, mem_relevant_iff]

/-- The time of the first change stays as it is once there is one. -/
theorem firstChange_record_of_some (h : batch.firstChange = some t) :
    (batch.record extensions event now).2.firstChange = some t := by
  rw [record_eq]
  simp [h]

theorem firstChange_record_of_none (h : batch.firstChange = none) :
    (batch.record extensions event now).2.firstChange =
      if (batch.record extensions event now).1 then some now else none := by
  rw [record_eq]
  simp [h]

/-! ### Any steps -/

/-- A batch in step with what was done to it. -/
structure Reflects (batch : ChangeBatch) (steps : List Step) : Prop where
  mem_paths : ∀ p, p ∈ batch.paths ↔ Pending steps p
  nodup_paths : batch.paths.Nodup
  firstChange : ∀ t, batch.firstChange = some t ↔ BeganAt steps t
  isSome_firstChange : batch.firstChange.isSome = true ↔ ∃ p, p ∈ batch.paths

theorem reflects_nil : Reflects {} [] where
  mem_paths p := iff_of_false List.not_mem_nil not_pending_nil
  nodup_paths := List.nodup_nil
  firstChange t := iff_of_false (by simp) not_beganAt_nil
  isSome_firstChange := by simp

theorem Reflects.clear (_ : batch.Reflects steps) : batch.clear.Reflects (steps ++ [.clear]) where
  mem_paths p := iff_of_false List.not_mem_nil not_pending_clear
  nodup_paths := List.nodup_nil
  firstChange t := iff_of_false (by simp [ChangeBatch.clear]) not_beganAt_clear
  isSome_firstChange := by simp [ChangeBatch.clear]

theorem Reflects.eq_none_iff (h : batch.Reflects steps) :
    batch.firstChange = none ↔ ∀ p, ¬Pending steps p := by
  have hsome := h.isSome_firstChange
  simp only [h.mem_paths, Option.isSome_iff_ne_none] at hsome
  rw [← not_exists, ← hsome, not_not]

/-- A batch stays in step with what was done to it when an event is recorded. -/
theorem Reflects.record (h : batch.Reflects steps) :
    (batch.record extensions event now).2.Reflects (steps ++ [.record extensions event now]) := by
  have hpaths (p : List PathPart) : p ∈ (batch.record extensions event now).2.paths ↔
      p ∈ batch.paths ∨ event.Touches extensions p := mem_paths_record
  refine ⟨fun p => ?_, nodup_foldl_addNew h.nodup_paths _, fun t => ?_, ?_⟩
  · rw [hpaths, pending_record, h.mem_paths]
  · rw [beganAt_record]
    cases hfirst : batch.firstChange with
    | some first =>
      -- something is pending, so this event is not the first one
      have hpending : ¬∀ p, ¬Pending steps p := by
        rw [← h.eq_none_iff, hfirst]
        exact Option.some_ne_none first
      rw [firstChange_record_of_some hfirst, ← hfirst, h.firstChange]
      simp [hpending]
    | none =>
      have hnone := h.eq_none_iff.1 hfirst
      have hbegan : ¬BeganAt steps t := by
        rw [← h.firstChange, hfirst]
        exact (Option.some_ne_none t).symm
      have hrecorded : (batch.record extensions event now).1 = true ↔ ∃ p, event.Touches extensions p := by
        simp [record_fst_iff, h.mem_paths, hnone]
      rw [firstChange_record_of_none hfirst]
      simp [hrecorded, hbegan, hnone, eq_comm, and_comm]
  · simp only [hpaths, exists_or]
    cases hfirst : batch.firstChange with
    | some first =>
      rw [firstChange_record_of_some hfirst]
      exact iff_of_true rfl (.inl (h.isSome_firstChange.1 (by rw [hfirst]; rfl)))
    | none =>
      have hempty : ∀ p, p ∉ batch.paths := fun p hp =>
        h.eq_none_iff.1 hfirst p ((h.mem_paths p).1 hp)
      have hrecorded : (batch.record extensions event now).1 = true ↔ ∃ p, event.Touches extensions p := by
        simp [record_fst_iff, hempty]
      rw [firstChange_record_of_none hfirst]
      simp [hrecorded, hempty]

theorem ofSteps_concat (steps : List Step) (step : Step) :
    ofSteps (steps ++ [step]) = (ofSteps steps).next step := by
  rw [ofSteps, ofSteps, List.foldl_concat]

/-- Whatever is done to it, a batch that was empty is in step with it. -/
theorem reflects_ofSteps (steps : List Step) : (ofSteps steps).Reflects steps := by
  induction steps using List.reverseRecOn with
  | nil => exact reflects_nil
  | append_singleton steps step ih =>
    rw [ofSteps_concat]
    cases step with
    | record extensions event now => exact ih.record
    | clear => exact ih.clear

/-- What was recorded since the first change is not older, if the events came in the order of their times. -/
theorem BeganAt.le_of_recorded {before : List Step} (hbegan : BeganAt steps t)
    (hrecorded : Recorded steps before extensions event now) (htouch : event.Touches extensions p)
    (htimes : (times steps).Pairwise (· ≤ ·)) : t ≤ now := by
  induction steps using List.reverseRecOn with
  | nil => exact absurd hrecorded not_recorded_nil
  | append_singleton steps step ih =>
    cases step with
    | clear => exact absurd hrecorded not_recorded_clear
    | record extensions' event' now' =>
      rw [times, List.filterMap_append] at htimes
      obtain ⟨hearlier, -, hlast⟩ := List.pairwise_append.1 htimes
      rcases beganAt_record.1 hbegan with hbefore | ⟨rfl, -, hfirst⟩
      · rcases recorded_record.1 hrecorded with hrecorded | ⟨-, -, -, rfl⟩
        · exact ih hbefore hrecorded hearlier
        · obtain ⟨_, first, event', h, -⟩ := hbefore
          exact hlast t (List.mem_filterMap.2 ⟨.record first event' t, h.mem, rfl⟩) now List.mem_cons_self
      · rcases recorded_record.1 hrecorded with hrecorded | ⟨-, -, -, rfl⟩
        · exact absurd ⟨before, extensions, event, now, hrecorded, htouch⟩ (hfirst p)
        · exact Nat.le_refl _

/-- Later events do not begin anew. -/
theorem BeganAt.append (h : BeganAt steps t) {later : List Step} (hclear : Step.clear ∉ later) :
    BeganAt (steps ++ later) t := by
  obtain ⟨before, extensions, event, hrecorded, htouch, hfirst⟩ := h
  exact ⟨before, extensions, event, hrecorded.append hclear, htouch, hfirst⟩

theorem Reflects.isEmpty_eq_false_iff (h : batch.Reflects steps) :
    batch.isEmpty = false ↔ ∃ t, BeganAt steps t := by
  have hpaths : batch.isEmpty = false ↔ ∃ p, p ∈ batch.paths := List.isEmpty_eq_false_iff_exists_mem
  simp only [hpaths, ← h.isSome_firstChange, Option.isSome_iff_exists, h.firstChange]

theorem isOverdue_iff {maxAge : Nat} :
    batch.isOverdue now maxAge = true ↔ ∃ t, batch.firstChange = some t ∧ maxAge ≤ now - t := by
  simp [isOverdue, Option.any_eq_true]

end

/-- What a batch that was empty holds after any events and clearings, and what it says of itself:
- its paths are those that an event since the last clearing touched, each once;
- a further event is told to be recorded exactly if it touches a path that is not pending;
- its time is that of the first event since the last clearing that touched a path: there is one exactly if the
  batch is not empty, no later event moves it, and no event that is pending is older;
- it is overdue exactly if it is not empty and so much time has passed since then; before that time none has. -/
theorem pending_changes (steps : List Step) :
    let batch := ofSteps steps
    (∀ p, p ∈ batch.paths ↔ Pending steps p) ∧ batch.paths.Nodup ∧
      (∀ extensions event now, (batch.record extensions event now).1 = true ↔
        ∃ p, event.Touches extensions p ∧ ¬Pending steps p) ∧
      (∀ t, batch.firstChange = some t ↔ BeganAt steps t) ∧
      (batch.firstChange.isSome = true ↔ batch.isEmpty = false) ∧
      (∀ t later, batch.firstChange = some t → Step.clear ∉ later →
        (ofSteps (steps ++ later)).firstChange = some t) ∧
      ((times steps).Pairwise (· ≤ ·) → ∀ t before extensions event now p, batch.firstChange = some t →
        Recorded steps before extensions event now → event.Touches extensions p → t ≤ now) ∧
      ∀ now maxAge, batch.isOverdue now maxAge = true ↔
        batch.isEmpty = false ∧ ∃ t, BeganAt steps t ∧ maxAge ≤ now - t := by
  intro batch
  have h : batch.Reflects steps := reflects_ofSteps steps
  refine ⟨h.mem_paths, h.nodup_paths, ?_, h.firstChange, ?_, ?_, ?_, ?_⟩
  · intro extensions event now
    simp only [record_fst_iff, h.mem_paths]
  · simp only [h.isEmpty_eq_false_iff, Option.isSome_iff_exists, h.firstChange]
  · intro t later hfirst hclear
    rw [(reflects_ofSteps (steps ++ later)).firstChange]
    exact ((h.firstChange t).1 hfirst).append hclear
  · intro htimes t before extensions event now p hfirst hrecorded htouch
    exact ((h.firstChange t).1 hfirst).le_of_recorded hrecorded htouch htimes
  · intro now maxAge
    simp only [isOverdue_iff, h.isEmpty_eq_false_iff, h.firstChange]
    constructor
    · rintro ⟨t, hbegan, hage⟩
      exact ⟨⟨t, hbegan⟩, t, hbegan, hage⟩
    · exact fun hoverdue => hoverdue.2

end ChangeBatch

end Concordance
