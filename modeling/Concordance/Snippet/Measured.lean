import Concordance.Snippet

/-!
# Snippets with measured windows

The width of a window is the difference of two places. It cannot be taken if one of the two spans is not
there or if the window ends before it begins. Here every width that the search for a window asks for is
measured, at the moment at which it is asked for, and a window that cannot be measured stops the search.
-/

namespace Concordance

namespace Snippet

variable (spans : Array Span) (width : Nat)

/-- How many characters a window covers, or the window, if that cannot be said. -/
def measuredWidth (w : Window) : Except Window Nat :=
  match spans[w.first]?, spans[w.last]? with
  | some a, some b =>
    if a.start.char ≤ b.stop.char then .ok (b.stop.char - a.start.char) else .error w
  | _, _ => .error w

def measuredFits (w : Window) : Except Window Bool :=
  (measuredWidth spans w).map fun covered => covered ≤ width

def measuredCut (first : Nat) : (last : Nat) → Except Window Window
  | 0 => .ok ⟨first, 0⟩
  | last + 1 =>
    if first < last + 1 then do
      if ← measuredFits spans width ⟨first, last + 1⟩ then .ok ⟨first, last + 1⟩
      else measuredCut first last
    else .ok ⟨first, last + 1⟩

/-- The place nearest to `place` of a single span that fits; all of them are measured. -/
def measuredNearest? (place : Nat) : Except Window (Option Nat) := do
  let fitting ← (List.range spans.size).filterM fun i => measuredFits spans width ⟨i, i⟩
  return fitting.foldl
    (fun best i =>
      match best with
      | none => some i
      | some b => if distance i place < distance b place then some i else some b)
    none

def measuredGrowStart (w : Window) : Except Window Window :=
  if 0 < w.first then do
    if ← measuredFits spans width ⟨w.first - 1, w.last⟩ then .ok ⟨w.first - 1, w.last⟩ else .ok w
  else .ok w

def measuredGrowEnd (w : Window) : Except Window Window :=
  if w.last + 1 < spans.size then do
    if ← measuredFits spans width ⟨w.first, w.last + 1⟩ then .ok ⟨w.first, w.last + 1⟩ else .ok w
  else .ok w

def measuredGrowOnce (w : Window) : Except Window Window := do
  measuredGrowEnd spans width (← measuredGrowStart spans width w)

/-- A test chooses one of two windows. -/
theorem eq_or_eq_of_test {test : Except Window Bool} {a b w : Window}
    (h : (test >>= fun fits => if fits then .ok a else .ok b) = Except.ok w) : w = a ∨ w = b := by
  match test with
  | .error _ => cases h
  | .ok true => cases h; exact .inl rfl
  | .ok false => cases h; exact .inr rfl

theorem measuredGrowStart_contains {w next : Window}
    (h : measuredGrowStart spans width w = .ok next) : next.first ≤ w.first ∧ next.last = w.last := by
  unfold measuredGrowStart at h
  split at h
  · rcases eq_or_eq_of_test h with rfl | rfl
    · exact ⟨Nat.sub_le _ _, rfl⟩
    · exact ⟨Nat.le_refl _, rfl⟩
  · cases h
    exact ⟨Nat.le_refl _, rfl⟩

theorem measuredGrowEnd_contains {w next : Window}
    (h : measuredGrowEnd spans width w = .ok next) : next.first = w.first ∧ w.last ≤ next.last := by
  unfold measuredGrowEnd at h
  split at h
  · rcases eq_or_eq_of_test h with rfl | rfl
    · exact ⟨rfl, Nat.le_succ _⟩
    · exact ⟨rfl, Nat.le_refl _⟩
  · cases h
    exact ⟨rfl, Nat.le_refl _⟩

theorem measuredGrowOnce_contains {w next : Window} (h : measuredGrowOnce spans width w = .ok next) :
    next.first ≤ w.first ∧ w.last ≤ next.last := by
  unfold measuredGrowOnce at h
  cases hstart : measuredGrowStart spans width w with
  | error unmeasured =>
    rw [hstart] at h
    cases h
  | ok v =>
    rw [hstart] at h
    have hv := measuredGrowStart_contains spans width hstart
    have hnext := measuredGrowEnd_contains spans width h
    exact ⟨Nat.le_trans (Nat.le_of_eq hnext.1) hv.1, hv.2 ▸ hnext.2⟩

def measuredGrow (w : Window) : Except Window Window :=
  match _h : measuredGrowOnce spans width w with
  | .error unmeasured => .error unmeasured
  | .ok next =>
    if next.first < w.first ∨ (w.last < next.last ∧ next.last < spans.size) then measuredGrow next
    else .ok w
termination_by w.first + (spans.size - w.last)
decreasing_by
  have := measuredGrowOnce_contains spans width _h
  omega

def measuredWindow? (terms : List String) : Except Window (Option Window) := do
  let start := (cluster? spans.toList terms).getD ⟨0, 0⟩
  let cut ← measuredCut spans width start.first start.last
  if ← measuredFits spans width cut then return some (← measuredGrow spans width cut)
  else
    match ← measuredNearest? spans width cut.first with
    | none => return none
    | some i => return some (← measuredGrow spans width ⟨i, i⟩)

end Snippet

variable [Text.CharacterTable]

open Snippet in
def measuredSnippet (config : TokenizerConfig) (text : String) (terms : List String) (width : Nat) :
    Except Window String := do
  let spans := (config.spans text).toArray
  if width = 0 || spans.isEmpty then return ""
  else
    match ← measuredWindow? spans width terms with
    | none => return ""
    | some w =>
      match spans[w.first]?, spans[w.last]? with
      | some a, some b =>
        return String.ofList (Text.joinWith [' '] (Text.words (slice text.toList a.start b.stop)))
      | _, _ => throw w

end Concordance
