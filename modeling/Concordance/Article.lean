import Concordance.Article.Inline
import Concordance.Article.Line
import Concordance.Document
import Concordance.Text.Lowercase

/-!
# Articles

An article is a text in a markup language. It is read into a title and a body: the title comes from the
front matter or else from the first heading, and the body is what remains, flattened to plain lines
with at most one empty line between any two.
-/

namespace Concordance

open Text

/-- A title and a body of plain text. -/
structure Article where
  title : List Char
  body : List Char
deriving DecidableEq, Repr

namespace Article

variable [CharacterTable]

/-! ### Front matter -/

def opensFrontMatter (line : List Char) : Bool :=
  trimEnd line == "---".toList

def closesFrontMatter (line : List Char) : Bool :=
  trimEnd line == "---".toList || trimEnd line == "...".toList

def titleOfLine? (line : List Char) : Option (List Char) :=
  (splitOnce? ':' line).bind fun (key, value) =>
    let value := trimBy (fun c => c == '"' || c == '\'') (trim value)
    if asciiLower (trim key) == "title".toList && !value.isEmpty then some (flatten value) else none

/-- The lines of the front matter and those behind it, given the lines behind its opening. -/
def splitFrontMatter? : List (List Char) → Option (List (List Char) × List (List Char))
  | [] => none
  | line :: rest =>
    if closesFrontMatter line then some ([], rest)
    else (splitFrontMatter? rest).map fun (front, body) => (line :: front, body)

/-- The title that the front matter gives, if there is any, and the lines behind it. The last title
counts. -/
def takeFrontMatter : List (List Char) → Except Flaw (Option (List Char) × List (List Char))
  | [] => .ok (none, [])
  | line :: rest =>
    if opensFrontMatter line then
      match splitFrontMatter? rest with
      | none => .error .unterminatedFrontMatter
      | some (front, body) => .ok ((front.filterMap titleOfLine?).getLast?, body)
    else .ok (none, line :: rest)

/-! ### Lines -/

/-- What has been read: the title, the lines of the body, the last one first, and whether the next line
lies in a code block. -/
structure Draft where
  title : Option (List Char)
  body : List (List Char)
  inCode : Bool

def Draft.push (draft : Draft) (line : List Char) : Draft :=
  { draft with body := line :: draft.body }

/-- Reads a heading: the first one is the title, unless there is one. -/
def Draft.readHeading (draft : Draft) (text : List Char) : Except Flaw Draft :=
  match draft.title with
  | none => if text.isEmpty then .error .emptyTitleHeading else .ok { draft with title := some text }
  | some _ => .ok (if text.isEmpty then draft else draft.push text)

def Draft.read (draft : Draft) (line : List Char) : Except Flaw Draft :=
  let trimmed := trim line
  if isFence trimmed then .ok { draft with inCode := !draft.inCode }
  else if draft.inCode then .ok (draft.push (collapse trimmed))
  else
    match heading? line with
    | some text => draft.readHeading (flatten text)
    | none => .ok (if isRule trimmed then draft else draft.push (flatten (dropMarkers line)))

/-- Joins lines to paragraphs: a run of empty lines between two others becomes one. `written` says that
a line stands before, and `broken` that an empty line follows it. -/
def joinParagraphs (written broken : Bool) : List (List Char) → List Char
  | [] => []
  | line :: lines =>
    if line.isEmpty then joinParagraphs written written lines
    else
      (if written then if broken then ['\n', '\n'] else ['\n'] else []) ++ line ++
        joinParagraphs true false lines

def ofChars (text : List Char) : Except Flaw Article := do
  if text.any fun c => c.toNat == 0 then throw .binaryContent
  let text := (stripStart? [Char.ofNat 0xFEFF] text).getD text
  let (title, lines) ← takeFrontMatter (lines (joinCarriageReturns text))
  let draft ← lines.foldlM Draft.read ⟨title, [], false⟩
  match draft.title with
  | none => throw .noTitleHeading
  | some title => return ⟨title, joinParagraphs false false draft.body.reverse⟩

/-- Reads an article; `path` names it in an error. -/
def parse (path text : String) : Except LoadError Article :=
  match ofChars text.toList with
  | .ok article => .ok article
  | .error flaw => .error (.malformed path flaw)

end Article

end Concordance
