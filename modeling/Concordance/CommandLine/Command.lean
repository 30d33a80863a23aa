import Concordance.CommandLine.Arguments
import Concordance.Corpus

/-!
# Commands

What can be asked for on the command line. The settings of the tokenizer and the ranking are given by
options; a limit of zero and a term length of zero count as one.
-/

namespace Concordance.CommandLine

open Text

structure CorpusOptions where
  directory : String
  extensions : String
  options : Ignore.WalkOptions
deriving DecidableEq, Repr

structure SourceOptions where
  corpus : CorpusOptions
  config : Config Float
  /-- The directory of the cache, if it is not the usual one. -/
  cacheDirectory : Option String

structure SearchCommand where
  query : String
  limit : Int
  all : Bool
  phrase : Bool
  json : Bool
  noCache : Bool
  source : SourceOptions

structure GetCommand where
  id : String
  json : Bool
  noCache : Bool
  source : SourceOptions

structure ServeCommand where
  source : SourceOptions
  watch : Bool
  debounce : UInt64
  noCache : Bool
  logLevel : String
  logFormat : String
  /-- How many units of 1024 bytes an answer may take. -/
  maxResponse : UInt64

inductive Command where
  | index (source : SourceOptions)
  | search (search : SearchCommand)
  | get (get : GetCommand)
  | info (json : Bool) (cacheDirectory : Option String)
  | serve (serve : ServeCommand)
  | cleanup (cacheDirectory : Option String)
  | guide (json : Bool)

/-! ### Extensions -/

/-- The extensions that are listed with commas between them. -/
def CorpusOptions.extensionList [CharacterTable] (corpus : CorpusOptions) : List String :=
  ((Text.splitAt ',' corpus.extensions.toList).map fun e => String.ofList (lower (trim e))).filter
    fun e => !e.isEmpty

def CorpusOptions.corpus [CharacterTable] (corpus : CorpusOptions) : DirectoryCorpus :=
  .ofTyped corpus.directory corpus.extensionList corpus.options

/-! ### Grammars -/

def corpusGrammar : List OptionSpec :=
  [⟨"dir", some 'd', some .text, false⟩, ⟨"ext", some 'e', some .text, false⟩,
    ⟨"hidden", none, none, false⟩, ⟨"no-ignore", none, none, false⟩]

def configGrammar : List OptionSpec :=
  [⟨"k1", none, some .number, false⟩, ⟨"b", none, some .number, false⟩,
    ⟨"title-weight", none, some .number, false⟩, ⟨"fold-diacritics", none, none, false⟩,
    ⟨"min-token-len", none, some .word, false⟩, ⟨"snippet-chars", none, some .word, false⟩,
    ⟨"max-limit", none, some .word, false⟩]

def cacheGrammar : List OptionSpec :=
  [⟨"index-dir", none, some .path, false⟩]

def sourceGrammar : List OptionSpec :=
  corpusGrammar ++ configGrammar ++ cacheGrammar

/-- The options of a search besides those of the source. -/
def searchGrammar : List OptionSpec :=
  [⟨"limit", some 'n', some .integer, true⟩, ⟨"all", none, none, false⟩,
    ⟨"phrase", none, none, false⟩, ⟨"json", none, none, false⟩, ⟨"no-cache", none, none, false⟩]

def getGrammar : List OptionSpec :=
  [⟨"json", none, none, false⟩, ⟨"no-cache", none, none, false⟩]

def serveGrammar : List OptionSpec :=
  [⟨"watch", none, none, false⟩, ⟨"debounce-ms", none, some .word, false⟩,
    ⟨"no-cache", none, none, false⟩, ⟨"log-level", none, some .text, false⟩,
    ⟨"log-format", none, some (.choice ["text", "json"]), false⟩,
    ⟨"max-response-kb", none, some .word, false⟩]

/-! ### Values -/

namespace Reading

/-- An option that stands alone was given. -/
def has (reading : Reading) (name : String) : Bool :=
  (reading.values.lookup name).isSome

def text? (reading : Reading) (name : String) : Option String :=
  match reading.values.lookup name with
  | some (.text s) => some s
  | _ => none

/-- The natural number that was given for an option, or else `default`. -/
def wordOr (reading : Reading) (name : String) (default : UInt64) : UInt64 :=
  match reading.values.lookup name with
  | some (.word n) => n
  | _ => default

def integerOr (reading : Reading) (name : String) (default : Int) : Int :=
  match reading.values.lookup name with
  | some (.integer n) => n
  | _ => default

def numberOr (reading : Reading) (name : String) (default : Float) : Float :=
  match reading.values.lookup name with
  | some (.number x) => x
  | _ => default

def corpus (reading : Reading) : CorpusOptions :=
  ⟨(reading.text? "dir").getD ".", (reading.text? "ext").getD "md,markdown",
    ⟨reading.has "hidden", reading.has "no-ignore"⟩⟩

def config (reading : Reading) : Config Float :=
  let usual := Config.standard
  let maxLimit := max 1 (reading.wordOr "max-limit" usual.maxLimit)
  { tokenizer :=
      ⟨max 1 (reading.wordOr "min-token-len" usual.tokenizer.minTermLength),
        reading.has "fold-diacritics"⟩
    weights :=
      ⟨reading.numberOr "k1" usual.weights.saturation, reading.numberOr "b" usual.weights.lengthNorm,
        reading.numberOr "title-weight" usual.weights.titleWeight⟩
    snippetLength := reading.wordOr "snippet-chars" usual.snippetLength
    defaultLimit := min usual.defaultLimit maxLimit
    maxLimit := maxLimit }

def source (reading : Reading) : SourceOptions :=
  ⟨reading.corpus, reading.config, reading.text? "index-dir"⟩

end Reading

/-! ### Reading a command -/

def commandNames : List String :=
  ["index", "search", "get", "info", "serve", "cleanup", "guide", "help"]

/-- Help about a command, or about nothing that is known. -/
def readHelp : List String → UsageError
  | [] => .showHelp
  | [name] => if commandNames.contains name then .showHelp else .unknownCommand
  | _ => .unknownCommand

def readCommand (name : String) (arguments : List String) : Except UsageError Command :=
  match name with
  | "index" => (Grammar.read ⟨sourceGrammar, false⟩ arguments).map fun r => .index r.source
  | "search" => (Grammar.read ⟨searchGrammar ++ sourceGrammar, true⟩ arguments).map fun r => .search
      ⟨r.word.getD "", r.integerOr "limit" 10, r.has "all", r.has "phrase", r.has "json", r.has "no-cache",
        r.source⟩
  | "get" => (Grammar.read ⟨getGrammar ++ sourceGrammar, true⟩ arguments).map fun r => .get
      ⟨r.word.getD "", r.has "json", r.has "no-cache", r.source⟩
  | "info" =>
    (Grammar.read ⟨⟨"json", none, none, false⟩ :: cacheGrammar, false⟩ arguments).map fun r =>
      .info (r.has "json") (r.text? "index-dir")
  | "serve" => (Grammar.read ⟨serveGrammar ++ sourceGrammar, false⟩ arguments).map fun r => .serve
      ⟨r.source, r.has "watch", r.wordOr "debounce-ms" 500, r.has "no-cache",
        (r.text? "log-level").getD "info", (r.text? "log-format").getD "text",
        r.wordOr "max-response-kb" 16⟩
  | "cleanup" => (Grammar.read ⟨cacheGrammar, false⟩ arguments).map fun r =>
      .cleanup (r.text? "index-dir")
  | "guide" => (Grammar.read ⟨[⟨"json", none, none, false⟩], false⟩ arguments).map fun r =>
      .guide (r.has "json")
  | "help" => .error (readHelp arguments)
  | _ => .error .unknownCommand

/-- What an argument in the place of a command leads to if it is none: help, the version or an error. -/
def notACommand (argument : List Char) : UsageError :=
  match argument with
  | '-' :: '-' :: name =>
    if name = "help".toList then .showHelp
    else if name = "version".toList then .showVersion
    else
      match splitOnce? '=' name with
      | some (name, _) =>
        if name = "help".toList ∨ name = "version".toList then .unwantedValue else .unknownArgument
      | none => .unknownArgument
  | '-' :: letter :: _ =>
    if letter = 'h' then .showHelp else if letter = 'V' then .showVersion else .unknownArgument
  | _ => .unknownCommand

/-- Reads the command line, without the name of the program. -/
def read : List String → Except UsageError Command
  | [] => .error .nothingAsked
  | ["--"] => .error .nothingAsked
  | "--" :: word :: _ =>
    .error (if commandNames.contains word then .unknownArgument else .unknownCommand)
  | argument :: arguments =>
    if commandNames.contains argument then readCommand argument arguments
    else .error (notACommand argument.toList)

end Concordance.CommandLine
