import Concordance.Json.Basic

/-!
# The guide

How queries are written, habits that give better results, and the tools of the server. The guide is
shown in a terminal, as JSON, and in short to a client that connects.
-/

namespace Concordance.Guide

/-- A piece of the syntax of queries. -/
structure Rule where
  form : String
  meaning : String
  sample : String

/-- A habit that gives better results. -/
structure Recipe where
  name : String
  occasion : String
  steps : List String

/-- A tool of the server. -/
structure Entry where
  name : String
  description : String

def rules : List Rule :=
  [⟨"word word",
      "Free words are OR-ed. Articles matching more of the words always rank above articles " ++
        "matching fewer, then BM25 decides.",
      "kerning groups"⟩,
    ⟨"\"several words\"",
      "Exact phrase: the words must appear consecutively, in the title or in the body.",
      "\"mark to base\" anchors"⟩,
    ⟨"a AND b",
      "A bare uppercase AND anywhere in the query requires every clause to match (same as " ++
        "mode='all' or --all).",
      "smart AND components"⟩,
    ⟨"a OR b",
      "Accepted and ignored: OR is already the default.",
      "ligature OR ligatures"⟩,
    ⟨"phrase=true / --phrase",
      "Treat the whole query as one phrase, quotes not needed.",
      "mark to base (with phrase=true)"⟩,
    ⟨"Case and punctuation",
      "Matching is case-insensitive. Hyphens and underscores stay inside tokens, so x-height " ++
        "and mark_to_base are single terms.",
      "x-height"⟩,
    ⟨"Common words",
      "Words like the, to, how and of are ignored outside phrases. Inside a phrase they must " ++
        "match.",
      "how to kern -> kern"⟩]

def recipes : List Recipe :=
  [⟨"Look up a feature",
      "You know the name of the tool, panel or feature",
      ["Search the feature name alone: handbook_search query='anchors'",
        "Title matches rank first; open the top hit with handbook_get"]⟩,
    ⟨"Answer a how-to question",
      "The question is a sentence, e.g. 'how do I attach accents to base letters'",
      ["Reduce the question to its nouns and verbs: 'attach accents base letters'",
        "If a known term exists, quote it: '\"mark to base\" accents'",
        "Read the two or three best snippets before opening full articles"]⟩,
    ⟨"Narrow a broad result list",
      "Many results share a generic word like glyph or font",
      ["Add a second specific term and set mode='all'",
        "Or quote the exact phrase the handbook uses"]⟩]

def tools : List Entry :=
  [⟨"handbook_search", "ranked search with snippets (start here)"⟩,
    ⟨"handbook_get", "full article text by id"⟩,
    ⟨"handbook_info", "snapshot size, generation and age"⟩,
    ⟨"handbook_reload", "rebuild after the articles changed on disk"⟩,
    ⟨"handbook_help", "this guide as JSON"⟩]

/-! ### In a terminal -/

def padEnd (width : Nat) (text : String) : String :=
  text ++ String.ofList (List.replicate (width - text.length) ' ')

def Rule.terminal (rule : Rule) : String :=
  "  " ++ rule.form ++ "\n    " ++ rule.meaning ++ "\n    Example: " ++ rule.sample ++ "\n\n"

def Recipe.terminal (recipe : Recipe) : String :=
  "  [" ++ recipe.name ++ "]\n  When: " ++ recipe.occasion ++ "\n" ++
    String.join (recipe.steps.map fun step => "    - " ++ step ++ "\n") ++ "\n"

def terminal : String :=
  "\nhandbook -- Query Syntax\n========================\n\nSYNTAX\n------\n" ++
    String.join (rules.map Rule.terminal) ++ "RECIPES\n-------\n" ++
    String.join (recipes.map Recipe.terminal) ++ "MCP TOOLS\n---------\n" ++
    String.join (tools.map fun t => "  " ++ padEnd 16 t.name ++ " " ++ t.description ++ "\n") ++ "\n"

/-! ### As JSON -/

def json : Json :=
  .object
    [("syntax", .array (rules.map fun r => .object
        [("form", .string r.form), ("meaning", .string r.meaning), ("example", .string r.sample)])),
      ("recipes", .array (recipes.map fun r => .object
        [("name", .string r.name), ("when", .string r.occasion), ("steps", .strings r.steps)])),
      ("tools", .array (tools.map fun t => .object
        [("tool", .string t.name), ("description", .string t.description)])),
      ("ranking", .string "score = clauses matched + BM25/(1+BM25); ties break by article id")]

/-! ### For a client -/

/-- What a client is told when it connects. -/
def instructions : String :=
  "handbook-search MCP server: lexical search over the font-editor handbook.\n\n" ++
    "Use handbook_search to find articles, then handbook_get to read one in full. " ++
    "Prefer short keyword queries over full sentences.\n\nQUERY SYNTAX:\n" ++
    String.join (rules.map fun r => "  " ++ r.form ++ ": " ++ r.meaning ++ "\n") ++ "\nTOOLS:\n" ++
    String.join (tools.map fun t => "  " ++ t.name ++ " - " ++ t.description ++ "\n") ++
    "\nCall handbook_help for examples and recipes.\n"

end Concordance.Guide
