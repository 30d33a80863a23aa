import Concordance.Text.Utf8

/-!
# Patterns for paths

A pattern is read into a row of tokens and matched against the bytes of a path. `?` and `*` do not match
a slash, `**` between slashes matches any number of directories, brackets hold a set of bytes and braces
alternatives. A pattern is matched by following all places that the tokens can reach at once; a place is
the rest of the path, so two places are the same if they have the same length.
-/

namespace Concordance.Ignore

def slash : UInt8 := 0x2F

structure ByteRange where
  low : UInt8
  high : UInt8
deriving DecidableEq, Repr

/-- A part of a pattern. -/
inductive Token where
  /-- This byte. -/
  | byte (b : UInt8)
  /-- Any byte but a slash. -/
  | any
  /-- Any bytes but slashes. -/
  | run
  /-- Nothing, or directories up to a slash. -/
  | leading
  /-- A slash and whatever follows it. -/
  | trailing
  /-- A slash, or directories between two slashes. -/
  | between
  /-- A byte that lies in one of the ranges, or in none of them. -/
  | oneOf (negated : Bool) (ranges : List ByteRange)
  /-- One of several patterns. -/
  | either (branches : List (List Token))

/-! ### Reading -/

/-- The bytes of a character as tokens. -/
def charTokens (c : Char) : List Token :=
  (String.utf8EncodeChar c).map .byte

/-- The ranges of bytes for a range of characters, of which the bytes are taken one by one: only the last
byte of the first character and the first byte of the last one make a range. -/
def byteRanges (first last : Char) : List ByteRange :=
  let single (b : UInt8) : ByteRange := ⟨b, b⟩
  if first = last then (String.utf8EncodeChar first).map single
  else
    let firstBytes := String.utf8EncodeChar first
    let lastBytes := String.utf8EncodeChar last
    firstBytes.dropLast.map single ++ [⟨firstBytes.getLast?.getD 0, lastBytes.head?.getD 0⟩] ++
      (lastBytes.drop 1).map single

/-- What was found between brackets. -/
inductive Brackets where
  /-- A set of characters, and what follows it. -/
  | closed (negated : Bool) (ranges : List ByteRange) (rest : List Char)
  | unclosed
  /-- A range that ends before it begins. -/
  | invalid

/-- Reads the set between brackets: `ranges` holds the ranges read so far, the last one first, and
`pending` says that a hyphen was read that may continue the last one. -/
def readRanges (negated : Bool) (first pending : Bool) (ranges : List (Char × Char)) : List Char → Brackets
  | [] => .unclosed
  | c :: rest =>
    if c = ']' ∧ !first then
      let ranges := if pending then ('-', '-') :: ranges else ranges
      .closed negated (ranges.reverse.flatMap fun (a, b) => byteRanges a b) rest
    else if first ∧ (c = ']' ∨ c = '-') then readRanges negated false false ((c, c) :: ranges) rest
    else if pending then
      match ranges with
      | (low, _) :: others =>
        if c < low then .invalid else readRanges negated false false ((low, c) :: others) rest
      | [] => .invalid
    else if c = '-' then readRanges negated false true ranges rest
    else readRanges negated false false ((c, c) :: ranges) rest

def readBrackets : List Char → Brackets
  | '!' :: rest => readRanges true true false [] rest
  | '^' :: rest => readRanges true true false [] rest
  | rest => readRanges false true false [] rest

structure GlobDraft where
  /-- The tokens of the current branch, the last one first. -/
  tokens : List Token
  /-- The alternatives that are open, the innermost one first: the finished branches, the last one
  first, and the tokens before the alternatives. -/
  groups : List (List (List Token) × List Token)
  /-- Brackets were opened and not closed. Brackets that follow stand for themselves. -/
  unclosed : Bool

namespace GlobDraft

def push (draft : GlobDraft) (token : Token) : GlobDraft :=
  { draft with tokens := token :: draft.tokens }

def pushAll (draft : GlobDraft) (tokens : List Token) : GlobDraft :=
  { draft with tokens := tokens.reverse ++ draft.tokens }

/-- Puts a token in the place of the last one, unless that stands for leading or trailing directories. -/
def replaceLast (draft : GlobDraft) (token : Token) : GlobDraft :=
  match draft.tokens with
  | .leading :: _ => draft
  | .trailing :: _ => draft
  | tokens => { draft with tokens := token :: tokens.drop 1 }

/-- Among alternatives, a comma and a brace come before the beginning of a branch, as a slash comes
before a name. -/
def beginsBranch (draft : GlobDraft) (previous : Option Char) : Bool :=
  !draft.groups.isEmpty && (previous == some ',' || previous == some '\x7b')

/-- Reads two stars that follow `previous` and stand before `rest`; gives the last character that was read
and what follows it. -/
def readStars (draft : GlobDraft) (previous : Option Char) (rest : List Char) :
    GlobDraft × Char × List Char :=
  let plain := (draft.pushAll [.run, .run], '*', rest)
  if draft.tokens.isEmpty then
    match rest with
    | [] => (draft.push .leading, '*', [])
    | '/' :: rest => (draft.push .leading, '/', rest)
    | _ => plain
  else if previous ≠ some '/' ∧ !draft.beginsBranch previous then plain
  else
    match rest with
    | [] => (draft.replaceLast .trailing, '*', [])
    | '/' :: rest => (draft.replaceLast .between, '/', rest)
    | c :: _ =>
      if !draft.groups.isEmpty ∧ (c = ',' ∨ c = '\x7d') then (draft.replaceLast .trailing, '*', rest)
      else plain

def readPunctuation? (draft : GlobDraft) (c : Char) : Option GlobDraft :=
  if c = '\x7b' then some { draft with tokens := [], groups := ([], draft.tokens) :: draft.groups }
  else
    match draft.groups with
    | [] => if c = ',' then some (draft.pushAll (charTokens c)) else none
    | (finished, before) :: groups =>
      let finished := draft.tokens.reverse :: finished
      if c = ',' then some { draft with tokens := [], groups := (finished, before) :: groups }
      else some { draft with tokens := .either finished.reverse :: before, groups := groups }

/-- Reads a pattern behind the character `previous`. Every step takes a character or more. -/
def read? : (fuel : Nat) → GlobDraft → (previous : Option Char) → List Char → Option GlobDraft
  | _, draft, _, [] => some draft
  | 0, _, _, _ => none
  | fuel + 1, draft, previous, c :: rest =>
    if c = '?' then read? fuel (draft.push .any) c rest
    else if c = '*' then
      match rest with
      | '*' :: more =>
        let (draft, last, after) := draft.readStars previous more
        read? fuel draft last after
      | _ => read? fuel (draft.push .run) c rest
    else if c = '[' ∧ !draft.unclosed then
      match readBrackets rest with
      | .closed negated ranges after => read? fuel (draft.push (.oneOf negated ranges)) ']' after
      | .unclosed => read? fuel { draft.pushAll (charTokens c) with unclosed := true } c rest
      | .invalid => none
    else if c = '\\' then
      match rest with
      | [] => none
      | e :: after => read? fuel (draft.pushAll (charTokens e)) e after
    else if c = '\x7b' ∨ c = '\x7d' ∨ c = ',' then
      match draft.readPunctuation? c with
      | none => none
      | some draft => read? fuel draft c rest
    else read? fuel (draft.pushAll (charTokens c)) c rest

end GlobDraft

/-- The tokens of a pattern, if it is well formed. -/
def readGlob? (pattern : List Char) : Option (List Token) :=
  (GlobDraft.read? pattern.length ⟨[], [], false⟩ none pattern).bind fun draft =>
    if draft.groups.isEmpty then some draft.tokens.reverse else none

/-! ### Matching -/

/-- A place in a path: what is left of it. -/
abbrev Rest := List UInt8

/-- The places of both lists, each once. -/
def unite (as bs : List Rest) : List Rest :=
  bs.foldl (fun places b => if places.any (fun a => a.length == b.length) then places else places ++ [b]) as

/-- The places behind any number of bytes other than slashes. -/
def afterRun : Rest → List Rest
  | [] => [[]]
  | b :: rest => (b :: rest) :: (if b = slash then [] else afterRun rest)

def afterAll : Rest → List Rest
  | [] => [[]]
  | b :: rest => (b :: rest) :: afterAll rest

def afterSlashes : Rest → List Rest
  | [] => []
  | b :: rest => if b = slash then rest :: afterSlashes rest else afterSlashes rest

mutual

/-- The token is an alternative of nothing. -/
def Token.isVoid : Token → Bool
  | .either branches => areVoid branches
  | _ => false

def isVoidRow : List Token → Bool
  | [] => true
  | token :: tokens => token.isVoid && isVoidRow tokens

def areVoid : List (List Token) → Bool
  | [] => true
  | branch :: branches => isVoidRow branch && areVoid branches

end

/-- The places behind a single byte that satisfies `p`. -/
def afterByte (p : UInt8 → Bool) : Rest → Option Rest
  | [] => none
  | b :: rest => if p b then some rest else none

def inRanges (ranges : List ByteRange) (b : UInt8) : Bool :=
  ranges.any fun r => r.low ≤ b && b ≤ r.high

def behindSlash (next : Rest → List Rest) : Rest → List Rest
  | b :: rest => if b = slash then next rest else []
  | [] => []

mutual

/-- The places that a token reaches from some places. -/
def Token.reach (places : List Rest) : Token → List Rest
  | .byte b => places.filterMap (afterByte (· == b))
  | .any => places.filterMap (afterByte (· != slash))
  | .run => places.foldl (fun found place => unite found (afterRun place)) []
  | .leading => places.foldl (fun found place => unite found (place :: afterSlashes place)) []
  | .trailing => places.foldl (fun found place => unite found (behindSlash afterAll place)) []
  | .between =>
    places.foldl (fun found place => unite found (behindSlash (fun r => r :: afterSlashes r) place)) []
  | .oneOf negated ranges => places.filterMap (afterByte fun b => inRanges ranges b != negated)
  | .either branches => if areVoid branches then places else reachAny places branches

/-- The places that a row of tokens reaches from some places. -/
def reachAll (places : List Rest) : List Token → List Rest
  | [] => places
  | token :: tokens => reachAll (token.reach places) tokens

/-- The places that one of the branches reaches from some places; an empty branch does not count. -/
def reachAny (places : List Rest) : List (List Token) → List Rest
  | [] => []
  | branch :: branches =>
    unite (if isVoidRow branch then [] else reachAll places branch) (reachAny places branches)

end

/-- The tokens match the whole path. Two stars alone match everything. -/
def matchesPath (tokens : List Token) (path : List UInt8) : Bool :=
  match tokens with
  | [.leading] => true
  | tokens => (reachAll [path] tokens).any List.isEmpty

end Concordance.Ignore
