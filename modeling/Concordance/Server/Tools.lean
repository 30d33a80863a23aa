import Concordance.Json.Basic

/-!
# The tools

The tools that a client can call, with a description of each and of its arguments.
-/

namespace Concordance.Tools

structure Parameter where
  name : String
  kind : String
  description : String
  /-- What else is told about it. -/
  details : List (String × Json) := []
  isRequired : Bool := false

structure Tool where
  name : String
  description : String
  parameters : List Parameter := []

def search : Tool where
  name := "handbook_search"
  description :=
    "Search the font-editor handbook. Lexical BM25 ranking over article titles and bodies; " ++
      "articles matching more query clauses always rank first. Free words are OR-ed, " ++
      "\"quoted text\" is an exact phrase, and a bare AND between words requires every clause. " ++
      "Common English words are ignored outside phrases. Returns id, title, path, a snippet " ++
      "around the best match, and a score per result. Use handbook_get with a result id to read " ++
      "the full article."
  parameters :=
    [⟨"query", "string",
        "Query text, e.g. 'kerning groups', '\"mark to base\" anchors', 'smart AND components'", [], true⟩,
      ⟨"limit", "integer",
        "Maximum number of results (default: 10, capped by the server's --max-limit)",
        [("minimum", .ofNat 1)], false⟩,
      ⟨"mode", "string",
        "'any' = documents matching any clause, more clauses rank first (default). " ++
          "'all' = every clause must match.",
        [("enum", .strings ["any", "all"])], false⟩,
      ⟨"phrase", "boolean", "Treat the whole query as one exact phrase (default: false)", [], false⟩]

def get : Tool where
  name := "handbook_get"
  description :=
    "Return one full handbook article (title, path, body) by its id as returned from handbook_search."
  parameters := [⟨"id", "string", "Article id, e.g. 'glyphs/anchors'", [], true⟩]

def info : Tool where
  name := "handbook_info"
  description :=
    "Statistics for the live snapshot (documents, terms, generation, age) and the on-disk snapshot cache."

def reload : Tool where
  name := "handbook_reload"
  description :=
    "Rebuild the index from the handbook directory and swap it in. Searches in flight finish on the " ++
      "previous snapshot. Use after articles were added or edited when the server runs without --watch."

def help : Tool where
  name := "handbook_help"
  description := "Query syntax guide with examples. Call this once before composing complex queries."

def all : List Tool :=
  [search, get, info, reload, help]

def Parameter.json (parameter : Parameter) : Json :=
  .object ([("type", .string parameter.kind), ("description", .string parameter.description)] ++
    parameter.details)

def Tool.json (tool : Tool) : Json :=
  .object
    [("name", .string tool.name), ("description", .string tool.description),
      ("inputSchema", .object
        [("type", .string "object"),
          ("properties", .object (tool.parameters.map fun p => (p.name, p.json))),
          ("required", .strings ((tool.parameters.filter Parameter.isRequired).map Parameter.name))])]

end Concordance.Tools
