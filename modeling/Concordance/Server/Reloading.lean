import Concordance.Server.Session

/-!
# Reloads at once

A reload may be asked for while another one runs, by requests and by whoever watches the files. Every call
takes its steps one after the other, and the steps of all calls mix in any order: it swaps the mark that a
reload runs, builds a snapshot, publishes it under a lock in two changes, reads the generation back, and
takes the mark away. Whoever wants the live snapshot waits for the lock; whoever wants its generation only
does not.
-/

namespace Concordance

/-! ### The two changes of a publication -/

namespace Live

variable {α : Type}

def count (live : Live α) : Live α :=
  { live with generation := live.generation + 1 }

/-- Puts a snapshot in the place of the current one, as that of a generation. -/
def replace (live : Live α) (snapshot : Snapshot α) (generation : UInt64) : Live α :=
  { live with current := { snapshot with generation := generation } }

end Live

/-! ### Calls -/

/-- What a reload tells of the snapshot that it has published. -/
def ReloadOutcome.ofSnapshot (snapshot : Snapshot Float) (generation : UInt64) : ReloadOutcome :=
  ⟨generation, snapshot.store.size, snapshot.index.termCount⟩

/-- How far a call of a reload has come. -/
inductive ReloadPhase where
  /-- It has not begun. -/
  | idle
  /-- It has set the mark. -/
  | building
  | built (snapshot : Snapshot Float)
  /-- It has the lock. -/
  | locked (snapshot : Snapshot Float)
  /-- It has counted a generation, which is that of its snapshot. -/
  | counted (snapshot : Snapshot Float) (generation : UInt64)
  /-- Its snapshot is the live one. -/
  | replaced (snapshot : Snapshot Float)
  /-- It has given the lock back. -/
  | released (snapshot : Snapshot Float)
  /-- It knows its result, and the mark is still set. -/
  | leaving (result : Except ReloadError ReloadOutcome)
  | ended (result : Except ReloadError ReloadOutcome)

namespace ReloadPhase

/-- The call has set the mark and not taken it away. -/
def isRunning : ReloadPhase → Bool
  | .idle | .ended _ => false
  | _ => true

/-- The call has the lock. -/
def hasLock : ReloadPhase → Bool
  | .locked _ | .counted _ _ | .replaced _ => true
  | _ => false

/-- The call has counted a generation and not put its snapshot in place. -/
def hasCounted : ReloadPhase → Bool
  | .counted _ _ => true
  | _ => false

/-- The call has built a snapshot, or has published it. -/
def hasBuilt : ReloadPhase → Bool
  | .built _ | .locked _ | .counted _ _ | .replaced _ | .released _ => true
  | .leaving result | .ended result => result.isOk
  | _ => false

end ReloadPhase

/-- The turn of a call, with what its corpus gives then. -/
structure Turn (ι : Type) where
  caller : ι
  view : View
  /-- The time, in seconds. -/
  now : UInt64

/-- The live snapshot and all calls of a reload. -/
structure Reloads (ι : Type) where
  /-- The mark that a reload runs. -/
  isReloading : Bool
  isLocked : Bool
  live : Live Float
  phase : ι → ReloadPhase
  /-- What was published, the first one first, with the calls that did it. No call looks at it. -/
  published : List (ι × Snapshot Float)

namespace Reloads

variable {ι : Type} [DecidableEq ι]

def start (first : Snapshot Float) : Reloads ι :=
  ⟨false, false, .start first, fun _ => .idle, []⟩

def current? (reloads : Reloads ι) : Option (Snapshot Float) :=
  if reloads.isLocked then none else some reloads.live.current

/-- A call has come so far. -/
def put (reloads : Reloads ι) (caller : ι) (phase : ReloadPhase) : Reloads ι :=
  { reloads with phase := fun other => if other = caller then phase else reloads.phase other }

variable [Text.CharacterTable]

/-- The next step of a call; `none` if it has to wait, or has ended. -/
def step? (config : Config Float) (reloads : Reloads ι) (turn : Turn ι) : Option (Reloads ι) :=
  let c := turn.caller
  match reloads.phase c with
  | .idle =>
    if reloads.isReloading then some (reloads.put c (.ended (.error .inProgress)))
    else some ({ reloads with isReloading := true }.put c .building)
  | .building =>
    match turn.view.snapshot config turn.now with
    | .error e => some (reloads.put c (.leaving (.error (.load e))))
    | .ok snapshot => some (reloads.put c (.built snapshot))
  | .built snapshot =>
    if reloads.isLocked then none else some ({ reloads with isLocked := true }.put c (.locked snapshot))
  | .locked snapshot =>
    let counted := reloads.live.count
    some ({ reloads with live := counted }.put c (.counted snapshot counted.generation))
  | .counted snapshot generation =>
    let replaced := reloads.live.replace snapshot generation
    some ({ reloads with
      live := replaced
      published := reloads.published ++ [(c, replaced.current)] }.put c (.replaced snapshot))
  | .replaced snapshot => some ({ reloads with isLocked := false }.put c (.released snapshot))
  | .released snapshot =>
    some (reloads.put c (.leaving (.ok (.ofSnapshot snapshot reloads.live.generation))))
  | .leaving result => some ({ reloads with isReloading := false }.put c (.ended result))
  | .ended _ => none

/-- What has become of all calls when each turn has been one step. -/
def run? (config : Config Float) (reloads : Reloads ι) (turns : List (Turn ι)) : Option (Reloads ι) :=
  turns.foldlM (step? config) reloads

end Reloads

end Concordance
