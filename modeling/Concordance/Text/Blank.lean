/-!
# White space

White space is the Unicode property White_Space: twenty-five characters. This module trims it,
splits text at it and collapses it. `blankRuns` is the shared shape: text is a sequence of words with
white space around and between them.
-/

namespace Concordance.Text

/-- The characters with the Unicode property White_Space. -/
def isBlank (c : Char) : Bool :=
  let n := c.toNat
  (0x9 ≤ n && n ≤ 0xD) || n = 0x20 || n = 0x85 || n = 0xA0 || n = 0x1680 ||
    (0x2000 ≤ n && n ≤ 0x200A) || n = 0x2028 || n = 0x2029 || n = 0x202F || n = 0x205F || n = 0x3000

def trimStartBy (p : Char → Bool) (cs : List Char) : List Char :=
  cs.dropWhile p

/-- `cs` without the characters at its end that satisfy `p`. -/
def trimEndBy (p : Char → Bool) : List Char → List Char
  | [] => []
  | c :: rest =>
    match trimEndBy p rest with
    | [] => if p c then [] else [c]
    | kept => c :: kept

/-- `cs` without the characters at either end that satisfy `p`. -/
def trimBy (p : Char → Bool) (cs : List Char) : List Char :=
  trimEndBy p (trimStartBy p cs)

def trimEnd (cs : List Char) : List Char :=
  trimEndBy isBlank cs

def trim (cs : List Char) : List Char :=
  trimBy isBlank cs

/-- Every run of white space becomes one space; `pending` says that such a run is being read. -/
def collapseFrom (pending : Bool) : List Char → List Char
  | [] => if pending then [' '] else []
  | c :: rest =>
    if isBlank c then collapseFrom true rest
    else (if pending then [' ', c] else [c]) ++ collapseFrom false rest

def collapse (cs : List Char) : List Char :=
  collapseFrom false cs

theorem length_dropWhile_le (p : Char → Bool) (cs : List Char) :
    (cs.dropWhile p).length ≤ cs.length :=
  (List.dropWhile_suffix p).length_le

/-- The maximal runs of characters of `cs` that satisfy `p`, in order. -/
def runsOf (p : Char → Bool) : List Char → List (List Char)
  | [] => []
  | c :: rest =>
    if p c then (c :: rest.takeWhile p) :: runsOf p (rest.dropWhile p)
    else runsOf p rest
termination_by cs => cs.length
decreasing_by
  · exact Nat.lt_succ_of_le (length_dropWhile_le p rest)
  · exact Nat.lt_succ_self _

def words (cs : List Char) : List (List Char) :=
  runsOf (fun c => !isBlank c) cs

end Concordance.Text
