import Concordance.Proofs.Outcomes
import Concordance.Proofs.Stores
import Concordance.Server.Reloading
import Concordance.Unicode.Database
import Mathlib.Data.List.Nodup

/-!
# Reloads do not mix

Whatever the order of the steps, one call at most has the mark, and with it the lock and the counter for
itself. So the snapshots that are published are numbered in their order, what a call tells is told of the
snapshot that it has published itself, a call that fails has changed nothing, and nobody who has seen a
generation gets an older snapshot afterwards (`reloads_in_order`). A call that nobody interferes with is the
reload of the server (`run?_alone`).
-/

namespace Concordance

/-- Publishing is counting and replacing. -/
theorem Live.publish_eq {α : Type} (live : Live α) (snapshot : Snapshot α) :
    live.publish snapshot = live.count.replace snapshot live.count.generation :=
  rfl

namespace Reloads

variable {ι : Type} [DecidableEq ι]

/-! ### Phases -/

@[simp] theorem phase_put_self (reloads : Reloads ι) (c : ι) (phase : ReloadPhase) :
    (reloads.put c phase).phase c = phase :=
  if_pos rfl

theorem phase_put_of_ne (reloads : Reloads ι) {c d : ι} (h : d ≠ c) (phase : ReloadPhase) :
    (reloads.put c phase).phase d = reloads.phase d :=
  if_neg h

@[simp] theorem isReloading_put (reloads : Reloads ι) (c : ι) (phase : ReloadPhase) :
    (reloads.put c phase).isReloading = reloads.isReloading :=
  rfl

@[simp] theorem isLocked_put (reloads : Reloads ι) (c : ι) (phase : ReloadPhase) :
    (reloads.put c phase).isLocked = reloads.isLocked :=
  rfl

@[simp] theorem live_put (reloads : Reloads ι) (c : ι) (phase : ReloadPhase) :
    (reloads.put c phase).live = reloads.live :=
  rfl

@[simp] theorem published_put (reloads : Reloads ι) (c : ι) (phase : ReloadPhase) :
    (reloads.put c phase).published = reloads.published :=
  rfl

/-! ### What a step can do -/

section

variable [Text.CharacterTable]

inductive Move (config : Config Float) (turn : Turn ι) (reloads : Reloads ι) : Reloads ι → Prop
  | refuse : reloads.phase turn.caller = .idle → reloads.isReloading = true →
    Move config turn reloads (reloads.put turn.caller (.ended (.error .inProgress)))
  | begin : reloads.phase turn.caller = .idle → reloads.isReloading = false →
    Move config turn reloads ({ reloads with isReloading := true }.put turn.caller .building)
  | fail {e : LoadError} : reloads.phase turn.caller = .building →
    turn.view.snapshot config turn.now = .error e →
    Move config turn reloads (reloads.put turn.caller (.leaving (.error (.load e))))
  | build {s : Snapshot Float} : reloads.phase turn.caller = .building →
    turn.view.snapshot config turn.now = .ok s →
    Move config turn reloads (reloads.put turn.caller (.built s))
  | lock {s : Snapshot Float} : reloads.phase turn.caller = .built s → reloads.isLocked = false →
    Move config turn reloads ({ reloads with isLocked := true }.put turn.caller (.locked s))
  | count {s : Snapshot Float} : reloads.phase turn.caller = .locked s →
    Move config turn reloads ({ reloads with live := reloads.live.count }.put turn.caller
      (.counted s reloads.live.count.generation))
  | replace {s : Snapshot Float} {g : UInt64} : reloads.phase turn.caller = .counted s g →
    Move config turn reloads ({ reloads with
      live := reloads.live.replace s g
      published := reloads.published ++ [(turn.caller, { s with generation := g })] }.put turn.caller
        (.replaced s))
  | release {s : Snapshot Float} : reloads.phase turn.caller = .replaced s →
    Move config turn reloads ({ reloads with isLocked := false }.put turn.caller (.released s))
  | tell {s : Snapshot Float} : reloads.phase turn.caller = .released s →
    Move config turn reloads
      (reloads.put turn.caller (.leaving (.ok (.ofSnapshot s reloads.live.generation))))
  | leave {result : Except ReloadError ReloadOutcome} : reloads.phase turn.caller = .leaving result →
    Move config turn reloads ({ reloads with isReloading := false }.put turn.caller (.ended result))

variable {config : Config Float} {turn : Turn ι} {reloads after : Reloads ι}

theorem step?_of_move (h : Move config turn reloads after) : step? config reloads turn = some after := by
  cases h <;> simp [step?, *]
  rfl

/-- A step does one of these things, and nothing else. -/
theorem move_of_step? (h : step? config reloads turn = some after) : Move config turn reloads after := by
  -- one case for each phase in which a call can stand
  unfold step? at h
  simp only at h
  split at h
  · next hphase =>
    split at h
    · next hmark =>
      cases h
      exact .refuse hphase hmark
    · next hmark =>
      cases h
      exact .begin hphase (by simpa using hmark)
  · next hphase =>
    split at h
    · next hbuild =>
      cases h
      exact .fail hphase hbuild
    · next hbuild =>
      cases h
      exact .build hphase hbuild
  · next hphase =>
    split at h
    · cases h
    · next hfree =>
      cases h
      exact .lock hphase (by simpa using hfree)
  · next hphase =>
    cases h
    exact .count hphase
  · next hphase =>
    cases h
    exact .replace hphase
  · next hphase =>
    cases h
    exact .release hphase
  · next hphase =>
    cases h
    exact .tell hphase
  · next hphase =>
    cases h
    exact .leave hphase
  · cases h

end

/-! ### What is true at every moment -/

def latest (first : Snapshot Float) (published : List (ι × Snapshot Float)) : Snapshot Float :=
  ((published.getLast?).map Prod.snd).getD { first with generation := 1 }

/-- What was published is numbered in its order, beginning with two, and no call has published twice. -/
structure Numbered (published : List (ι × Snapshot Float)) : Prop where
  generation : ∀ i, ∀ p ∈ published[i]?, p.2.generation = UInt64.ofNat (i + 2)
  once : (published.map Prod.fst).Nodup

/-- What a call that has come so far has published: nothing, or one snapshot, of which it tells. -/
def Accounted (published : List (ι × Snapshot Float)) (c : ι) : ReloadPhase → Prop
  | .counted _ g => g = UInt64.ofNat (published.length + 2) ∧ c ∉ published.map Prod.fst
  | .replaced s | .released s =>
    published.getLast? = some (c, { s with generation := UInt64.ofNat (published.length + 1) })
  | .leaving (.ok outcome) | .ended (.ok outcome) =>
    ∃ s, (c, s) ∈ published ∧ outcome = .ofSnapshot s s.generation
  | _ => c ∉ published.map Prod.fst

/-- How many generations were counted, of which `holder` has perhaps not published the last one. -/
def ticks (reloads : Reloads ι) (holder : Option ι) : Nat :=
  reloads.published.length + (holder.any fun c => (reloads.phase c).hasCounted).toNat

/-- All calls and the live snapshot fit together, and `holder` is the one call that runs. -/
structure Coherent (first : Snapshot Float) (reloads : Reloads ι) (holder : Option ι) : Prop where
  running : ∀ c, (reloads.phase c).isRunning = true ↔ holder = some c
  marked : reloads.isReloading = holder.isSome
  locked : reloads.isLocked = holder.any fun c => (reloads.phase c).hasLock
  counter : reloads.live.generation = UInt64.ofNat (reloads.ticks holder + 1)
  current : reloads.live.current = latest first reloads.published
  numbered : Numbered reloads.published
  accounted : ∀ c, Accounted reloads.published c (reloads.phase c)

section

variable {first : Snapshot Float} {reloads : Reloads ι} {c : ι} {holder : Option ι}
  {phase : ReloadPhase}

omit [DecidableEq ι] in
theorem coherent_start (first : Snapshot Float) : Coherent first (start first : Reloads ι) none where
  running c := by simp [start, ReloadPhase.isRunning]
  marked := rfl
  locked := rfl
  counter := rfl
  current := rfl
  numbered := ⟨by simp [start], List.nodup_nil⟩
  accounted c := by simp [start, Accounted]

omit [DecidableEq ι] in
/-- A call that runs is the one that does. -/
theorem Coherent.holder_eq (h : Coherent first reloads holder)
    (hphase : reloads.phase c = phase) (hrunning : phase.isRunning = true) : holder = some c :=
  (h.running c).1 (hphase ▸ hrunning)

omit [DecidableEq ι] in
/-- No other call runs. -/
theorem Coherent.quiet (h : Coherent first reloads (some c)) :
    ∀ d ≠ c, (reloads.phase d).isRunning = false := by
  intro d hd
  rw [← Bool.not_eq_true, h.running d, Option.some.injEq]
  exact hd.symm

omit [DecidableEq ι] in
theorem ticks_some (hphase : reloads.phase c = phase) :
    reloads.ticks (some c) = reloads.published.length + phase.hasCounted.toNat := by
  rw [ticks, Option.any_some, hphase]

/-- What the phase of the call that runs tells of the rest. -/
structure Held (reloads : Reloads ι) (c : ι) (phase : ReloadPhase) : Prop where
  mark : reloads.isReloading = true
  lock : reloads.isLocked = phase.hasLock
  counter : reloads.live.generation =
    UInt64.ofNat (reloads.published.length + phase.hasCounted.toNat + 1)
  own : Accounted reloads.published c phase

omit [DecidableEq ι] in
theorem Coherent.held (h : Coherent first reloads (some c)) (hphase : reloads.phase c = phase) :
    Held reloads c phase where
  mark := h.marked
  lock := by rw [h.locked, Option.any_some, hphase]
  counter := by rw [h.counter, ticks_some hphase]
  own := hphase ▸ h.accounted c

/-- One call goes on while no other one runs. -/
theorem coherent_put (hrunning : phase.isRunning = true)
    (hquiet : ∀ d ≠ c, (reloads.phase d).isRunning = false) (hheld : Held reloads c phase)
    (hcurrent : reloads.live.current = latest first reloads.published)
    (hnumbered : Numbered reloads.published)
    (hothers : ∀ d ≠ c, Accounted reloads.published d (reloads.phase d)) :
    Coherent first (reloads.put c phase) (some c) where
  running d := by
    -- the caller itself, then the others, which the step leaves alone
    by_cases hd : d = c
    · subst hd
      simp [hrunning]
    · rw [phase_put_of_ne _ hd, hquiet d hd]
      simp [Ne.symm hd]
  marked := hheld.mark
  locked := by simpa using hheld.lock
  counter := by
    rw [ticks_some (phase_put_self reloads c phase)]
    exact hheld.counter
  current := hcurrent
  numbered := hnumbered
  accounted d := by
    by_cases hd : d = c
    · subst hd
      simpa using hheld.own
    · rw [phase_put_of_ne _ hd]
      exact hothers d hd

omit [DecidableEq ι] in
/-- What another call has published is told as before when a call publishes. -/
theorem Accounted.concat {published : List (ι × Snapshot Float)} {d : ι}
    (h : Accounted published d phase) (hquiet : phase.isRunning = false) (hd : d ≠ c)
    (s : Snapshot Float) : Accounted (published ++ [(c, s)]) d phase := by
  cases phase with
  | idle =>
    simp only [Accounted, List.map_append, List.mem_append] at h ⊢
    simp [h, hd]
  | ended result =>
    cases result with
    | error e =>
      simp only [Accounted, List.map_append, List.mem_append] at h ⊢
      simp [h, hd]
    | ok outcome =>
      obtain ⟨told, hmem, houtcome⟩ := h
      exact ⟨told, List.mem_append_left _ hmem, houtcome⟩
  | _ => cases hquiet

omit [DecidableEq ι] in
/-- The snapshot that was published last has the last number. -/
theorem Numbered.generation_latest {published : List (ι × Snapshot Float)} (h : Numbered published)
    (first : Snapshot Float) :
    (latest first published).generation = UInt64.ofNat (published.length + 1) := by
  rcases List.eq_nil_or_concat' published with rfl | ⟨before, p, rfl⟩
  · rfl
  · rw [latest, List.getLast?_concat, List.length_append]
    exact h.generation before.length p (by rw [List.getElem?_concat_length]; rfl)

omit [DecidableEq ι] in
/-- What is published gets the next number. -/
theorem Numbered.concat {published : List (ι × Snapshot Float)} (h : Numbered published)
    (hc : c ∉ published.map Prod.fst) {s : Snapshot Float}
    (hs : s.generation = UInt64.ofNat (published.length + 2)) : Numbered (published ++ [(c, s)]) where
  generation i p hp := by
    rcases Nat.lt_trichotomy i published.length with hi | rfl | hi
    · rw [List.getElem?_append_left hi] at hp
      exact h.generation i p hp
    · rw [List.getElem?_concat_length] at hp
      cases hp
      exact hs
    · rw [List.getElem?_eq_none (by simpa using Nat.succ_le_of_lt hi)] at hp
      cases hp
  once := by
    rw [List.map_append, List.map_singleton]
    exact List.nodup_append.2 ⟨h.once, List.nodup_singleton c,
      by simpa using fun a ha => ne_of_mem_of_not_mem ha hc⟩

end

/-! ### One step -/

section

variable {first : Snapshot Float} {reloads after : Reloads ι} {c : ι} {holder : Option ι}
  {phase next : ReloadPhase}

/-- The call that runs goes on, and publishes nothing. -/
theorem Coherent.advance (h : Coherent first reloads (some c)) (hphase : reloads.phase c = phase)
    (hrunning : next.isRunning = true) (hheld : Held after c next) (hsame : after.phase = reloads.phase)
    (hpublished : after.published = reloads.published) (hcurrent : after.live.current = reloads.live.current)
    (hticks : phase.hasCounted.toNat ≤ next.hasCounted.toNat) :
    ∃ holder, Coherent first (after.put c next) holder ∧
      reloads.ticks (some c) ≤ (after.put c next).ticks holder := by
  refine ⟨some c, coherent_put hrunning ?_ hheld ?_ ?_ ?_, ?_⟩
  · rw [hsame]
    exact h.quiet
  · rw [hcurrent, hpublished, h.current]
  · rw [hpublished]
    exact h.numbered
  · rw [hpublished, hsame]
    exact fun d _ => h.accounted d
  · rw [ticks_some hphase, ticks_some (phase_put_self after c next), published_put, hpublished]
    omega

/-- A call that finds the mark set ends at once. -/
theorem Coherent.refuse (h : Coherent first reloads holder) (hphase : reloads.phase c = .idle) :
    Coherent first (reloads.put c (.ended (.error .inProgress))) holder ∧
      (reloads.put c (.ended (.error .inProgress))).ticks holder = reloads.ticks holder := by
  -- a refused call holds nothing, so it is not the one that does
  have hne : ∀ d, holder = some d → d ≠ c := by
    rintro d hd rfl
    have hrunning := (h.running d).2 hd
    rw [hphase] at hrunning
    cases hrunning
  have hany : ∀ f : ReloadPhase → Bool,
      (holder.any fun d => f ((reloads.put c (.ended (.error .inProgress))).phase d)) =
        holder.any fun d => f (reloads.phase d) := by
    intro f
    cases holder with
    | none => rfl
    | some d => rw [Option.any_some, Option.any_some, phase_put_of_ne _ (hne d rfl)]
  have hticks : (reloads.put c (.ended (.error .inProgress))).ticks holder = reloads.ticks holder := by
    rw [ticks, ticks, hany]
    rfl
  refine ⟨⟨fun d => ?_, h.marked, ?_, ?_, h.current, h.numbered, fun d => ?_⟩, hticks⟩
  · by_cases hd : d = c
    · subst hd
      rw [phase_put_self, ← h.running, hphase]
      rfl
    · rw [phase_put_of_ne _ hd, h.running]
  · rw [hany]
    exact h.locked
  · rw [hticks]
    exact h.counter
  · by_cases hd : d = c
    · subst hd
      have hown := h.accounted d
      rw [hphase] at hown
      rw [phase_put_self]
      exact hown
    · rw [phase_put_of_ne _ hd]
      exact h.accounted d

/-- A call that finds no mark begins. -/
theorem Coherent.begin (h : Coherent first reloads none) (hphase : reloads.phase c = .idle) :
    Coherent first ({ reloads with isReloading := true }.put c .building) (some c) := by
  have hown := h.accounted c
  rw [hphase] at hown
  refine coherent_put rfl ?_ ⟨rfl, h.locked, h.counter, hown⟩ h.current h.numbered
    fun d _ => h.accounted d
  intro d _
  rw [← Bool.not_eq_true]
  exact fun hrunning => nomatch (h.running d).1 hrunning

/-- A call that has counted a generation publishes its snapshot under that number. -/
theorem Coherent.replace (h : Coherent first reloads (some c)) {s : Snapshot Float} {g : UInt64}
    (hphase : reloads.phase c = .counted s g) :
    Coherent first ({ reloads with
      live := reloads.live.replace s g
      published := reloads.published ++ [(c, { s with generation := g })] }.put c (.replaced s))
        (some c) := by
  obtain ⟨hmark, hlock, hcounter, rfl, hnew⟩ := h.held hphase
  refine coherent_put rfl h.quiet ⟨hmark, hlock, ?_, ?_⟩ ?_ (h.numbered.concat hnew rfl) ?_
  · rw [List.length_append]
    exact hcounter
  · rw [Accounted, List.getLast?_concat, List.length_append]
    rfl
  · rw [latest, List.getLast?_concat]
    rfl
  · exact fun d hd => (h.accounted d).concat (h.quiet d hd) hd _

/-- The call that runs ends, and takes the mark away. -/
theorem Coherent.leave (h : Coherent first reloads (some c))
    {result : Except ReloadError ReloadOutcome} (hphase : reloads.phase c = .leaving result) :
    Coherent first ({ reloads with isReloading := false }.put c (.ended result)) none := by
  obtain ⟨-, hlock, hcounter, hown⟩ := h.held hphase
  refine ⟨fun d => ?_, rfl, hlock, hcounter, h.current, h.numbered, fun d => ?_⟩
  · by_cases hd : d = c
    · subst hd
      simp [ReloadPhase.isRunning]
    · rw [phase_put_of_ne _ hd]
      simp [h.quiet d hd]
  · by_cases hd : d = c
    · subst hd
      rw [phase_put_self]
      -- what is known of the result does not change with the end
      cases result with
      | error e => exact hown
      | ok outcome => exact hown
    · rw [phase_put_of_ne _ hd]
      exact h.accounted d

variable [Text.CharacterTable] {config : Config Float} {turn : Turn ι}

/-- Every step keeps all calls and the live snapshot together, and takes no generation back. -/
theorem Coherent.move (h : Coherent first reloads holder) (hmove : Move config turn reloads after) :
    ∃ next, Coherent first after next ∧ reloads.ticks holder ≤ after.ticks next := by
  cases hmove with
  | refuse hphase _ =>
    obtain ⟨hafter, hticks⟩ := h.refuse hphase
    exact ⟨holder, hafter, Nat.le_of_eq hticks.symm⟩
  | begin hphase hmark =>
    have hnone : holder = none := by
      rw [h.marked, Option.isSome_eq_false_iff, Option.isNone_iff_eq_none] at hmark
      exact hmark
    subst hnone
    refine ⟨_, h.begin hphase, ?_⟩
    rw [ticks_some (phase_put_self _ _ _)]
    exact Nat.le_refl _
  | fail hphase _ =>
    obtain rfl := h.holder_eq hphase rfl
    obtain ⟨hmark, hlock, hcounter, hown⟩ := h.held hphase
    exact h.advance hphase rfl ⟨hmark, hlock, hcounter, hown⟩ rfl rfl rfl (Nat.le_refl _)
  | build hphase _ =>
    obtain rfl := h.holder_eq hphase rfl
    obtain ⟨hmark, hlock, hcounter, hown⟩ := h.held hphase
    exact h.advance hphase rfl ⟨hmark, hlock, hcounter, hown⟩ rfl rfl rfl (Nat.le_refl _)
  | lock hphase _ =>
    obtain rfl := h.holder_eq hphase rfl
    obtain ⟨hmark, -, hcounter, hown⟩ := h.held hphase
    refine h.advance hphase rfl ⟨hmark, ?_, hcounter, hown⟩ rfl rfl rfl (Nat.le_refl _)
    rfl
  | count hphase =>
    obtain rfl := h.holder_eq hphase rfl
    obtain ⟨hmark, hlock, hcounter, hown⟩ := h.held hphase
    have hnext : reloads.live.count.generation = UInt64.ofNat (reloads.published.length + 2) := by
      rw [Live.count, hcounter]
      exact (UInt64.ofNat_add _ 1).symm
    exact h.advance hphase rfl ⟨hmark, hlock, hnext, hnext, hown⟩ rfl rfl rfl (Nat.zero_le _)
  | replace hphase =>
    obtain rfl := h.holder_eq hphase rfl
    refine ⟨_, h.replace hphase, ?_⟩
    rw [ticks_some hphase, ticks_some (phase_put_self _ _ _), published_put, List.length_append]
    exact Nat.le_refl _
  | release hphase =>
    obtain rfl := h.holder_eq hphase rfl
    obtain ⟨hmark, -, hcounter, hown⟩ := h.held hphase
    refine h.advance hphase rfl ⟨hmark, ?_, hcounter, hown⟩ rfl rfl rfl (Nat.le_refl _)
    rfl
  | @tell s hphase =>
    obtain rfl := h.holder_eq hphase rfl
    obtain ⟨hmark, hlock, hcounter, hown⟩ := h.held hphase
    -- the counter is still that of the snapshot that was published last
    refine h.advance hphase rfl ⟨hmark, hlock, hcounter, ?_⟩ rfl rfl rfl (Nat.le_refl _)
    exact ⟨_, List.mem_of_getLast? hown, by rw [hcounter]; rfl⟩
  | leave hphase =>
    obtain rfl := h.holder_eq hphase rfl
    refine ⟨none, h.leave hphase, ?_⟩
    rw [ticks_some hphase]
    exact Nat.le_refl _

/-! ### Whole runs -/

theorem run?_cons {turns : List (Turn ι)} :
    run? config reloads (turn :: turns) = some after ↔
      ∃ next, step? config reloads turn = some next ∧ run? config next turns = some after := by
  rw [run?, List.foldlM_cons]
  exact Option.bind_eq_some_iff

theorem run?_append {turns more : List (Turn ι)} :
    run? config reloads (turns ++ more) = some after ↔
      ∃ next, run? config reloads turns = some next ∧ run? config next more = some after := by
  rw [run?, List.foldlM_append]
  exact Option.bind_eq_some_iff

/-- A run keeps all calls and the live snapshot together, and takes no generation back. -/
theorem Coherent.run {turns : List (Turn ι)} (h : Coherent first reloads holder)
    (hrun : run? config reloads turns = some after) :
    ∃ next, Coherent first after next ∧ reloads.ticks holder ≤ after.ticks next := by
  induction turns generalizing reloads holder with
  | nil =>
    cases hrun
    exact ⟨holder, h, Nat.le_refl _⟩
  | cons turn turns ih =>
    obtain ⟨middle, hstep, hrest⟩ := run?_cons.1 hrun
    obtain ⟨between, hmiddle, hfirst⟩ := h.move (move_of_step? hstep)
    obtain ⟨last, hafter, hsecond⟩ := ih hmiddle hrest
    exact ⟨last, hafter, Nat.le_trans hfirst hsecond⟩

/-! ### Calls that fail -/

/-- A call that has built a snapshot does not fail any more. -/
theorem hasBuilt_of_move (hmove : Move config turn reloads after) {c : ι}
    (h : (reloads.phase c).hasBuilt = true) : (after.phase c).hasBuilt = true := by
  by_cases hc : c = turn.caller
  · subst hc
    cases hmove <;> simp_all [ReloadPhase.hasBuilt, Except.isOk, Except.toBool]
  · cases hmove <;> rw [phase_put_of_ne _ hc] <;> exact h

theorem hasBuilt_of_run {turns : List (Turn ι)} (hrun : run? config reloads turns = some after) {c : ι}
    (h : (reloads.phase c).hasBuilt = true) : (after.phase c).hasBuilt = true := by
  induction turns generalizing reloads with
  | nil =>
    cases hrun
    exact h
  | cons turn turns ih =>
    obtain ⟨middle, hstep, hrest⟩ := run?_cons.1 hrun
    exact ih hrest (hasBuilt_of_move (move_of_step? hstep) h)

/-- Only a call that has built a snapshot changes the live one or its generation. -/
theorem live_eq_or_hasBuilt (hmove : Move config turn reloads after) :
    after.live = reloads.live ∨ (after.phase turn.caller).hasBuilt = true := by
  cases hmove with
  | count _ => exact .inr (by rw [phase_put_self, ReloadPhase.hasBuilt])
  | replace _ => exact .inr (by rw [phase_put_self, ReloadPhase.hasBuilt])
  | _ => exact .inl rfl

/-! ### The order of reloads -/

omit [DecidableEq ι] [Text.CharacterTable] in
/-- Nobody gets a snapshot that is older than a generation that was seen before. -/
theorem generation_le_of_current? {u : Reloads ι} {before after : Option ι} (hu : Coherent first u before)
    {v : Reloads ι} (hv : Coherent first v after) (hticks : u.ticks before ≤ v.ticks after)
    (hfits : v.published.length + 1 < 2 ^ 64) {s : Snapshot Float} (hs : v.current? = some s) :
    u.live.generation ≤ s.generation := by
  -- while nobody has the lock, all generations that were counted are published
  have hfree : v.isLocked = false ∧ v.live.current = s := by
    rw [current?] at hs
    split at hs
    · cases hs
    · next hlock => exact ⟨by simpa using hlock, Option.some.inj hs⟩
  have hpublished : v.ticks after = v.published.length := by
    have hlock := hv.locked.symm.trans hfree.1
    cases after with
    | none => rfl
    | some c =>
      have hcounted : (v.phase c).hasCounted = false := by
        rw [Option.any_some] at hlock
        cases hphase : v.phase c with
        | counted s g =>
          rw [hphase] at hlock
          cases hlock
        | _ => rfl
      rw [ticks_some rfl, hcounted]
      rfl
  have hgeneration : s.generation = UInt64.ofNat (v.published.length + 1) := by
    rw [← hfree.2, hv.current]
    exact hv.numbered.generation_latest first
  rw [hu.counter, hgeneration, UInt64.le_iff_toNat_le, UInt64.toNat_ofNat_of_lt' hfits,
    UInt64.toNat_ofNat_of_lt' (show _ < 2 ^ 64 by omega)]
  omega

/-- Whatever calls there are and however their steps mix:

- one call at most is between setting the mark and taking it away, and the mark is set exactly while there
  is one;
- the snapshots that are published have the generations two, three, four and so on;
- a call that succeeds has published one snapshot, and tells its generation and the numbers of its
  documents and terms;
- no step of a call that fails changes the live snapshot or the counter;
- whoever has seen a generation and gets the live snapshot later gets one of that generation or a newer
  one, as long as generations fit 64 bits.
-/
theorem reloads_in_order (config : Config Float) (first : Snapshot Float) {turns : List (Turn ι)}
    {after : Reloads ι} (hrun : run? config (start first) turns = some after) :
    (∀ c d, (after.phase c).isRunning = true → (after.phase d).isRunning = true → c = d) ∧
    (after.isReloading = true ↔ ∃ c, (after.phase c).isRunning = true) ∧
    after.published.map (fun p => p.2.generation) =
      (List.range after.published.length).map (fun i => UInt64.ofNat (i + 2)) ∧
    (∀ c outcome, after.phase c = .ended (.ok outcome) →
      ∃ s, (∀ other, (c, other) ∈ after.published ↔ other = s) ∧
        outcome = ⟨s.generation, s.store.size, s.index.termCount⟩) ∧
    (∀ before turn behind u v e, turns = before ++ turn :: behind →
      run? config (start first) before = some u → step? config u turn = some v →
      after.phase turn.caller = .ended (.error e) → v.live = u.live) ∧
    (∀ before behind u s, turns = before ++ behind → run? config (start first) before = some u →
      after.current? = some s → after.published.length + 1 < 2 ^ 64 →
      u.live.generation ≤ s.generation) := by
  obtain ⟨holder, h, -⟩ := (coherent_start first).run hrun
  refine ⟨fun c d hc hd => ?_, ?_, ?_, fun c outcome hended => ?_, ?_, ?_⟩
  · have hholder := (h.running c).1 hc
    rw [(h.running d).1 hd, Option.some.injEq] at hholder
    exact hholder.symm
  · rw [h.marked, Option.isSome_iff_exists]
    exact exists_congr fun c => (h.running c).symm
  · refine List.ext_getElem (by simp) fun i hi _ => ?_
    rw [List.length_map] at hi
    rw [List.getElem_map, List.getElem_map, List.getElem_range]
    exact h.numbered.generation i _ (List.getElem?_eq_getElem hi)
  · have hown := h.accounted c
    rw [hended] at hown
    obtain ⟨s, hmem, houtcome⟩ := hown
    refine ⟨s, fun other => ⟨fun hother => ?_, ?_⟩, houtcome⟩
    · exact (Prod.mk.inj (List.inj_on_of_nodup_map h.numbered.once hother hmem rfl)).2
    · rintro rfl
      exact hmem
  · rintro before turn behind u v e rfl hu hstep hended
    rcases live_eq_or_hasBuilt (move_of_step? hstep) with hlive | hbuilt
    · exact hlive
    · -- the call has a snapshot then, so it does not end with an error
      obtain ⟨u', hu', hrest⟩ := run?_append.1 hrun
      cases hu.symm.trans hu'
      obtain ⟨v', hv', hrest⟩ := run?_cons.1 hrest
      cases hstep.symm.trans hv'
      have hended' := hasBuilt_of_run hrest hbuilt
      rw [hended] at hended'
      cases hended'
  · rintro before behind u s rfl hu hs hfits
    obtain ⟨u', hu', hrest⟩ := run?_append.1 hrun
    cases hu.symm.trans hu'
    obtain ⟨earlier, hearlier, -⟩ := (coherent_start first).run hu
    obtain ⟨later, hlater, hticks⟩ := hearlier.run hrest
    exact generation_le_of_current? hearlier hlater hticks hfits hs

/-! ### A call that nobody interferes with -/

/-- A run goes on from its first step. -/
theorem exists_run?_cons {P : Reloads ι → Prop} {next : Reloads ι} {turns : List (Turn ι)}
    (hmove : Move config turn reloads next) (h : ∃ last, run? config next turns = some last ∧ P last) :
    ∃ last, run? config reloads (turn :: turns) = some last ∧ P last := by
  obtain ⟨last, hrun, hlast⟩ := h
  exact ⟨last, run?_cons.2 ⟨next, step?_of_move hmove, hrun⟩, hlast⟩

/-- A call whose steps follow each other, with the mark and the live snapshot of a server, is the reload
of that server. -/
theorem run?_alone (server : Server) (moment : Moment) {c : ι} (hphase : reloads.phase c = .idle)
    (hmark : reloads.isReloading = server.isReloading) (hlock : reloads.isLocked = false)
    (hlive : reloads.live = server.live) :
    ∃ n last, run? server.config reloads (List.replicate n ⟨c, moment.view, moment.now⟩) = some last ∧
      last.phase c = .ended (server.reload moment).result ∧
      last.live = (server.reload moment).server.live ∧
      last.isReloading = server.isReloading ∧ last.isLocked = false ∧
      ∀ d ≠ c, last.phase d = reloads.phase d := by
  cases hserver : server.isReloading with
  | true =>
    rw [hserver] at hmark
    -- marked: the call is refused in one step
    refine ⟨1, exists_run?_cons (.refuse hphase hmark) ⟨_, rfl, ?_⟩⟩
    rw [Server.reload, if_pos hserver]
    exact ⟨phase_put_self _ _ _, hlive, hmark, hlock, fun d hd => phase_put_of_ne _ hd _⟩
  | false =>
    rw [hserver] at hmark
    rw [Server.reload, if_neg (by simp [hserver])]
    cases hbuild : moment.view.snapshot server.config moment.now with
    | error e =>
      -- the build fails: begin, fail, leave
      refine ⟨3, exists_run?_cons (.begin hphase hmark) <|
        exists_run?_cons (.fail (phase_put_self _ _ _) hbuild) <|
        exists_run?_cons (.leave (phase_put_self _ _ _)) ⟨_, rfl, ?_⟩⟩
      exact ⟨phase_put_self _ _ _, hlive, rfl, hlock, fun d hd => by simp [phase_put_of_ne _ hd]⟩
    | ok s =>
      -- the build succeeds, and the call takes all its steps
      refine ⟨8, exists_run?_cons (.begin hphase hmark) <|
        exists_run?_cons (.build (phase_put_self _ _ _) hbuild) <|
        exists_run?_cons (.lock (phase_put_self _ _ _) hlock) <|
        exists_run?_cons (.count (phase_put_self _ _ _)) <|
        exists_run?_cons (.replace (phase_put_self _ _ _)) <|
        exists_run?_cons (.release (phase_put_self _ _ _)) <|
        exists_run?_cons (.tell (phase_put_self _ _ _)) <|
        exists_run?_cons (.leave (phase_put_self _ _ _)) ⟨_, rfl, ?_⟩⟩
      refine ⟨?_, ?_, rfl, rfl, fun d hd => by simp [phase_put_of_ne _ hd]⟩
      · simp [Server.outcome, ReloadOutcome.ofSnapshot, Live.publish_eq, Live.replace, Live.count, hlive]
      · simp [Live.publish_eq, hlive]

end

end Reloads

end Concordance

/-! ### Two calls at once -/

namespace Concordance.Reloads

/-- A corpus of one document, which is empty. -/
def sampleView : View :=
  .ofDocuments [⟨"a", "", "", "a.md"⟩]

theorem snapshot_sample : ∃ s, sampleView.snapshot .standard 0 = .ok s := by
  obtain ⟨store, hstore, -⟩ := Store.ofDocuments_ok sampleView.description
    (show [(⟨"a", "", "", "a.md"⟩ : Document)] ≠ [] by simp) (by simp)
  refine ⟨Snapshot.build store .standard 0 none, ?_⟩
  rw [View.snapshot, View.store]
  exact bind_eq_ok.2 ⟨none, rfl, bind_eq_ok.2 ⟨store, bind_eq_ok.2 ⟨_, rfl, hstore⟩, rfl⟩⟩

def sampleTurn (caller : Bool) : Turn Bool :=
  ⟨caller, sampleView, 0⟩

/-- One of two calls reloads, and the other one finds it at that. -/
def sampleTurns : List (Turn Bool) :=
  sampleTurn true :: sampleTurn false :: List.replicate 7 (sampleTurn true)

theorem run?_sample (first : Snapshot Float) :
    ∃ last, run? .standard (start first) sampleTurns = some last ∧
      last.phase false = .ended (.error .inProgress) ∧ last.published.length = 1 ∧
      last.current?.isSome = true := by
  obtain ⟨s, hs⟩ := snapshot_sample
  exact exists_run?_cons (.begin rfl rfl) <| exists_run?_cons (.refuse rfl rfl) <|
    exists_run?_cons (.build rfl hs) <| exists_run?_cons (.lock rfl rfl) <|
    exists_run?_cons (.count rfl) <| exists_run?_cons (.replace rfl) <|
    exists_run?_cons (.release rfl) <| exists_run?_cons (.tell rfl) <|
    exists_run?_cons (.leave rfl) ⟨_, rfl, rfl, rfl, rfl⟩

/-- One call publishes the second generation, the other one has changed nothing, and who has seen the
first generation gets one that is not older. -/
theorem reloads_in_order_sample :
    ∃ first last, run? .standard (start first) sampleTurns = some last ∧
      last.phase false = .ended (.error .inProgress) ∧
      last.published.map (fun p => p.2.generation) = [2] ∧
      ∃ s, last.current? = some s ∧ 1 ≤ s.generation := by
  obtain ⟨first, -⟩ := snapshot_sample
  obtain ⟨last, hrun, hfalse, hlength, hcurrent⟩ := run?_sample first
  obtain ⟨-, -, hpublished, -, -, hreaders⟩ := reloads_in_order .standard first hrun
  obtain ⟨s, hs⟩ := Option.isSome_iff_exists.1 hcurrent
  refine ⟨first, last, hrun, hfalse, ?_, s, hs, ?_⟩
  · rw [hpublished, hlength]
    rfl
  · exact hreaders [] sampleTurns (start first) s rfl rfl hs (by rw [hlength]; decide)

end Concordance.Reloads
