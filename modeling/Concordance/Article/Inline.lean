import Concordance.Text.Blank
import Concordance.Text.Split

/-!
# Inline markup

A line of an article is flattened to the words that a reader sees: an image gives its description, a
link its label, a tag nothing; a few entities are spelled out, emphasis and code marks go, and the bars
of a table become spaces. Each kind of markup is a `Pattern`, and `replaceMatches` replaces its matches
from left to right.
-/

namespace Concordance.Article

open Text

/-- What stands behind a separator is shorter than the text. -/
theorem length_of_splitOnce? {separator : Char} {cs before after : List Char}
    (h : splitOnce? separator cs = some (before, after)) : after.length < cs.length := by
  induction cs generalizing before with
  | nil => simp [splitOnce?] at h
  | cons c rest ih =>
    rw [splitOnce?] at h
    split at h
    · cases h
      exact Nat.lt_succ_self _
    · obtain ⟨⟨b, a⟩, hs, hp⟩ := Option.map_eq_some_iff.1 h
      cases hp
      exact Nat.lt_succ_of_lt (ih hs)

/-- A kind of markup: `find?` gives the text that a match at the start of a text leaves, and what
follows the match. -/
structure Pattern where
  find? : List Char → Option (List Char × List Char)
  shortens : ∀ {cs kept rest : List Char}, find? cs = some (kept, rest) → rest.length < cs.length

/-- A text with every match of the pattern replaced by what it leaves, from left to right. -/
def replaceMatches (pattern : Pattern) : List Char → List Char
  | [] => []
  | c :: rest =>
    match _h : pattern.find? (c :: rest) with
    | some (kept, after) => kept ++ replaceMatches pattern after
    | none => c :: replaceMatches pattern rest
termination_by cs => cs.length
decreasing_by
  · exact pattern.shortens (by assumption)
  · exact Nat.lt_succ_self _

/-- The label between square brackets, and what follows. -/
def bracketed? : List Char → Option (List Char × List Char)
  | '[' :: rest => splitOnce? ']' rest
  | _ => none

theorem length_of_bracketed? {cs label rest : List Char} (h : bracketed? cs = some (label, rest)) :
    rest.length < cs.length := by
  unfold bracketed? at h
  split at h
  · exact Nat.lt_succ_of_lt (length_of_splitOnce? h)
  · simp at h

def afterTarget? : List Char → Option (List Char)
  | '(' :: rest => (splitOnce? ')' rest).map Prod.snd
  | _ => none

theorem length_of_afterTarget? {cs rest : List Char} (h : afterTarget? cs = some rest) :
    rest.length < cs.length := by
  unfold afterTarget? at h
  split at h
  · obtain ⟨⟨_, _⟩, hs, rfl⟩ := Option.map_eq_some_iff.1 h
    exact Nat.lt_succ_of_lt (length_of_splitOnce? hs)
  · simp at h

/-- What follows a target between parentheses or a reference between square brackets. -/
def afterReference? (cs : List Char) : Option (List Char) :=
  (afterTarget? cs).or ((bracketed? cs).map Prod.snd)

theorem length_of_afterReference? {cs rest : List Char} (h : afterReference? cs = some rest) :
    rest.length < cs.length := by
  rcases Option.or_eq_some_iff.1 h with h | ⟨_, h⟩
  · exact length_of_afterTarget? h
  · obtain ⟨⟨_, _⟩, hs, rfl⟩ := Option.map_eq_some_iff.1 h
    exact length_of_bracketed? hs

def findImage? : List Char → Option (List Char × List Char)
  | '!' :: cs => (bracketed? cs).bind fun (label, rest) => (afterTarget? rest).map (label, ·)
  | _ => none

def findLink? (cs : List Char) : Option (List Char × List Char) :=
  (bracketed? cs).bind fun (label, rest) => (afterReference? rest).map (label, ·)

def isLetter (c : Char) : Bool :=
  ('a' ≤ c && c ≤ 'z') || ('A' ≤ c && c ≤ 'Z')

/-- What follows a tag whose name begins here. -/
def afterTagName? : List Char → Option (List Char)
  | c :: rest => if isLetter c then (splitOnce? '>' rest).map Prod.snd else none
  | [] => none

/-- What follows a tag is shorter than the text from the name of the tag on. -/
theorem length_of_afterTagName? {cs rest : List Char} (h : afterTagName? cs = some rest) :
    rest.length < cs.length := by
  unfold afterTagName? at h
  split at h
  · split at h
    · obtain ⟨⟨_, _⟩, hs, rfl⟩ := Option.map_eq_some_iff.1 h
      exact Nat.lt_succ_of_lt (length_of_splitOnce? hs)
    · simp at h
  · simp at h

/-- An opening or closing tag at the start of a text, which leaves nothing. -/
def findTag? : List Char → Option (List Char × List Char)
  | '<' :: '/' :: cs => (afterTagName? cs).map ([], ·)
  | '<' :: cs => (afterTagName? cs).map ([], ·)
  | _ => none

/-- An image: `![description](target)`. -/
def image : Pattern where
  find? := findImage?
  shortens := by
    intro cs kept rest h
    unfold findImage? at h
    split at h
    · obtain ⟨⟨label, after⟩, hb, h⟩ := Option.bind_eq_some_iff.1 h
      obtain ⟨_, ht, hp⟩ := Option.map_eq_some_iff.1 h
      cases hp
      have := length_of_bracketed? hb
      have := length_of_afterTarget? ht
      simp only [List.length_cons]
      omega
    · simp at h

/-- A link: `[label](target)` or `[label][reference]`. -/
def link : Pattern where
  find? := findLink?
  shortens := by
    intro cs kept rest h
    obtain ⟨⟨label, after⟩, hb, h⟩ := Option.bind_eq_some_iff.1 h
    obtain ⟨_, ht, hp⟩ := Option.map_eq_some_iff.1 h
    cases hp
    have := length_of_bracketed? hb
    have := length_of_afterReference? ht
    omega

/-- A tag: `<name …>` or `</name …>`. -/
def tag : Pattern where
  find? := findTag?
  shortens := by
    intro cs kept rest h
    unfold findTag? at h
    split at h
    · obtain ⟨_, ht, hp⟩ := Option.map_eq_some_iff.1 h
      cases hp
      have := length_of_afterTagName? ht
      simp only [List.length_cons]
      omega
    · obtain ⟨_, ht, hp⟩ := Option.map_eq_some_iff.1 h
      cases hp
      have := length_of_afterTagName? ht
      simp only [List.length_cons]
      omega
    · simp at h

def spellEntities (cs : List Char) : List Char :=
  replaceAll '&' "amp;".toList ['&']
    (replaceAll '&' "gt;".toList ['>']
      (replaceAll '&' "lt;".toList ['<']
        (replaceAll '&' "nbsp;".toList [' '] cs)))

/-- A mark of emphasis or code, which is dropped. -/
def isEmphasis (c : Char) : Bool :=
  c == '*' || c.toNat == 0x60

/-- A text without marks of emphasis and code, with spaces for the bars of a table. -/
def dropMarks (cs : List Char) : List Char :=
  (cs.filter fun c => !isEmphasis c).map fun c => if c = '|' then ' ' else c

def flatten (line : List Char) : List Char :=
  let shown := replaceMatches tag (replaceMatches link (replaceMatches image line))
  collapse (trim (dropMarks (spellEntities shown)))

end Concordance.Article
