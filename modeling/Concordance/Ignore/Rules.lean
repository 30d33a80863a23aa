import Concordance.Ignore.Glob
import Concordance.Text.Blank
import Concordance.Text.Split
import Concordance.Text.Utf8

/-!
# Rules of an ignore file

Every line of an ignore file is a rule for the paths below its directory, and the last rule that matches
decides. A pattern without a slash inside it applies at any depth, one that ends with a slash only to
directories, and an exclamation mark lets in what an earlier rule shuts out.
-/

namespace Concordance.Ignore

open Text

inductive Verdict where
  | ignored
  | allowed
deriving DecidableEq, Repr

structure Rule where
  tokens : List Token
  verdict : Verdict
  /-- The rule applies to directories only. -/
  directoriesOnly : Bool

def endsWith (text ending : List Char) : Bool :=
  (stripStart? ending.reverse text.reverse).isSome

/-- A line without white space at its end, unless a backslash keeps a space there. -/
def trimLine (line : List Char) : List Char :=
  if endsWith line ['\\', ' '] then line else trimEnd line

/-- What a line says before its pattern: the verdict, whether the pattern is bound to the directory of
the file, and the pattern. -/
def readMarks (line : List Char) : Verdict × Bool × List Char :=
  let bound (verdict : Verdict) (pattern : List Char) :=
    match pattern with
    | '/' :: rest => (verdict, true, rest)
    | rest => (verdict, false, rest)
  match line with
  | '\\' :: '!' :: rest => (.ignored, false, '!' :: rest)
  | '\\' :: '#' :: rest => (.ignored, false, '#' :: rest)
  | '!' :: rest => bound .allowed rest
  | rest => bound .ignored rest

/-- A pattern without the slash at its end, if there is one, and without the backslash before that. -/
def dropSlash (pattern : List Char) : Bool × List Char :=
  match pattern.reverse with
  | '/' :: '\\' :: rest => (true, rest.reverse)
  | '/' :: rest => (true, rest.reverse)
  | _ => (false, pattern)

/-- A pattern as it is matched against whole paths. -/
def wholePattern (bound : Bool) (pattern : List Char) : List Char :=
  let deep := (stripStart? "**/".toList pattern).isSome || pattern == "**".toList
  let pattern := if bound || pattern.contains '/' || deep then pattern else "**/".toList ++ pattern
  if endsWith pattern "/**".toList then pattern ++ "/*".toList else pattern

def readRule? (line : List Char) : Option Rule :=
  let trimmed := trimLine line
  if line.head? == some '#' || trimmed.isEmpty then none
  else
    let (verdict, bound, pattern) := readMarks trimmed
    let (directoriesOnly, pattern) := dropSlash pattern
    (readGlob? (wholePattern bound pattern)).map fun tokens => ⟨tokens, verdict, directoriesOnly⟩

/-- The rules of a file. A mark of the order of bytes may stand before the first one. -/
def readRules (content : List UInt8) : List Rule :=
  match readLines content with
  | [] => []
  | first :: rest => ((first.dropWhile (· == Char.ofNat 0xFEFF)) :: rest).filterMap readRule?

/-- The verdict of rules about a path: that of the last one that matches. -/
def verdict? (rules : List Rule) (path : List UInt8) (isDirectory : Bool) : Option Verdict :=
  (rules.reverse.find? fun rule =>
    (isDirectory || !rule.directoriesOnly) && matchesPath rule.tokens path).map Rule.verdict

end Concordance.Ignore
