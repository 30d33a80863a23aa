import Concordance.Ranking

/-!
# Snippets

A snippet shows a run of whole terms of a text that is at most so many characters wide. It starts from
the cluster, the leftmost shortest run with as many of the wanted terms as occur anywhere; the cluster
is cut at its end if it is too wide, replaced by the nearest term that fits if its first term is too
wide, and then grown to both sides as far as it fits.
-/

namespace Concordance

open Text

namespace Snippet

/-- A run of spans: the places of the first and the last of them. -/
structure Window where
  first : Nat
  last : Nat
deriving DecidableEq, Repr

def Window.width (spans : Array Span) (w : Window) : Nat :=
  match spans[w.first]?, spans[w.last]? with
  | some a, some b => b.stop.char - a.start.char
  | _, _ => 0

/-! ### The cluster -/

/-- The spans of wanted terms: the place of each, and that of its term among the wanted ones. -/
def hits (spans : List Span) (terms : List String) : List (Nat × Nat) :=
  spans.zipIdx.filterMap fun (span, place) =>
    (terms.findIdx? (· == span.term)).map fun term => (place, term)

/-- A window and how many different wanted terms it holds. -/
structure Cluster where
  distinct : Nat
  window : Window
deriving DecidableEq, Repr

/-- `a` holds more terms than `b`, or as many in fewer spans. -/
def Cluster.beats (a b : Cluster) : Bool :=
  b.distinct < a.distinct ||
    (a.distinct = b.distinct && a.window.last - a.window.first < b.window.last - b.window.first)

/-- The better one of the best cluster so far and a new one. -/
def better (best : Option Cluster) (new : Cluster) : Option Cluster :=
  match best with
  | none => some new
  | some old => if new.beats old then some new else some old

/-- Goes through the hits from `first` on and tries a cluster at each term that is new; `seen` holds the
terms met so far. -/
def tryFrom (wanted first : Nat) (seen : List Nat) (best : Option Cluster) :
    List (Nat × Nat) → Option Cluster
  | [] => best
  | (place, term) :: rest =>
    if seen.contains term then tryFrom wanted first seen best rest
    else
      let seen := term :: seen
      let best := better best ⟨seen.length, ⟨first, place⟩⟩
      if seen.length = wanted then best else tryFrom wanted first seen best rest

def tryAll (wanted : Nat) (best : Option Cluster) : List (Nat × Nat) → Option Cluster
  | [] => best
  | (place, term) :: rest =>
    tryAll wanted (tryFrom wanted place [] best ((place, term) :: rest)) rest

/-- The leftmost shortest window with all wanted terms that occur. -/
def cluster? (spans : List Span) (terms : List String) : Option Window :=
  (tryAll terms.length none (hits spans terms)).map Cluster.window

/-! ### The window -/

variable (spans : Array Span) (width : Nat)

def fits (w : Window) : Bool :=
  w.width spans ≤ width

/-- The window from `first` to the last place up to `last` at which it fits, or to `first`. -/
def cutAt (first : Nat) : (last : Nat) → Window
  | 0 => ⟨first, 0⟩
  | last + 1 =>
    if first < last + 1 ∧ !fits spans width ⟨first, last + 1⟩ then cutAt first last
    else ⟨first, last + 1⟩

def distance (a b : Nat) : Nat :=
  (a - b) + (b - a)

/-- The place nearest to `place` of a single span that fits; of two, the first. -/
def nearestFit? (place : Nat) : Option Nat :=
  ((List.range spans.size).filter fun i => fits spans width ⟨i, i⟩).foldl
    (fun best i =>
      match best with
      | none => some i
      | some b => if distance i place < distance b place then some i else some b)
    none

/-- The window, wider by one span before it if that fits. -/
def growStart (w : Window) : Window :=
  if 0 < w.first ∧ fits spans width ⟨w.first - 1, w.last⟩ then ⟨w.first - 1, w.last⟩ else w

/-- The window, wider by one span behind it if that fits. -/
def growEnd (w : Window) : Window :=
  if w.last + 1 < spans.size ∧ fits spans width ⟨w.first, w.last + 1⟩ then ⟨w.first, w.last + 1⟩
  else w

/-- The window, wider by one span on either side where that fits. -/
def growOnce (w : Window) : Window :=
  growEnd spans width (growStart spans width w)

/-- A window that grows keeps all that it holds. -/
theorem growOnce_contains (w : Window) :
    (growOnce spans width w).first ≤ w.first ∧ w.last ≤ (growOnce spans width w).last := by
  have hs : (growStart spans width w).first ≤ w.first ∧ (growStart spans width w).last = w.last := by
    unfold growStart
    split
    · exact ⟨Nat.sub_le _ _, rfl⟩
    · exact ⟨Nat.le_refl _, rfl⟩
  unfold growOnce growEnd
  split
  · exact ⟨hs.1, hs.2 ▸ Nat.le_succ _⟩
  · exact ⟨hs.1, Nat.le_of_eq hs.2.symm⟩

/-- The window, grown by one span on either side in turn until neither fits. -/
def grow (w : Window) : Window :=
  if (growOnce spans width w).first < w.first ∨
      (w.last < (growOnce spans width w).last ∧ (growOnce spans width w).last < spans.size) then
    grow (growOnce spans width w)
  else w
termination_by w.first + (spans.size - w.last)
decreasing_by
  have := growOnce_contains spans width w
  omega

def window? (terms : List String) : Option Window :=
  let start := (cluster? spans.toList terms).getD ⟨0, 0⟩
  let cut := cutAt spans width start.first start.last
  if fits spans width cut then some (grow spans width cut)
  else (nearestFit? spans width cut.first).map fun i => grow spans width ⟨i, i⟩

end Snippet

def slice (text : List Char) (start stop : Place) : List Char :=
  (text.take stop.char).drop start.char

variable [CharacterTable]

open Snippet in
def snippet (config : TokenizerConfig) (text : String) (terms : List String) (width : Nat) : String :=
  let spans := (config.spans text).toArray
  if width = 0 || spans.isEmpty then ""
  else
    match window? spans width terms with
    | none => ""
    | some w =>
      match spans[w.first]?, spans[w.last]? with
      | some a, some b =>
        String.ofList (Text.joinWith [' '] (words (slice text.toList a.start b.stop)))
      | _, _ => ""

end Concordance
