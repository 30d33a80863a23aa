import Concordance.Decimal.Literal
import Concordance.Text.Split

/-!
# Arguments of a command

A command knows options, each with a long name and perhaps a letter, and may want one word besides. An
option either stands alone or takes a value, which follows it or is attached to it. Arguments are read
from left to right, and the value of an option is looked at when the next thing begins; behind `--`
everything is a word. No option may come twice.
-/

namespace Concordance.CommandLine

open Text

/-- Why arguments were not accepted, or what is shown in place of running a command. -/
inductive UsageError where
  | showHelp
  | showVersion
  /-- Help is shown because nothing was asked for. -/
  | nothingAsked
  | unknownCommand
  | unknownArgument
  | missingWord
  | repeatedOption
  /-- A value is missing, or is none of those that may be chosen. -/
  | invalidValue
  /-- A value cannot be read. -/
  | unreadableValue
  /-- A value is attached to an option that takes none. -/
  | unwantedValue
deriving DecidableEq, Repr

/-- The status of the program: showing what was asked for is no failure. -/
def UsageError.status : UsageError → UInt32
  | .showHelp => 0
  | .showVersion => 0
  | _ => 2

def UsageError.message : UsageError → String
  | .showHelp =>
    "Usage: handbook <COMMAND>\n\n" ++
      "Commands: index, search, get, info, serve, cleanup, guide, help\n" ++
      "Common options: -d <DIR> (handbook directory), -n <N> (result limit), --json"
  | .showVersion => "handbook 0.1.0"
  | .nothingAsked => "error: no command was given"
  | .unknownCommand => "error: there is no such command"
  | .unknownArgument => "error: an argument was not expected"
  | .missingWord => "error: a required argument was not given"
  | .repeatedOption => "error: an option was given twice"
  | .invalidValue => "error: the value of an option is missing or not one of its choices"
  | .unreadableValue => "error: the value of an option cannot be read"
  | .unwantedValue => "error: an option takes no value"

inductive Value where
  | given
  | text (s : String)
  | integer (n : Int)
  | word (n : UInt64)
  | number (x : Float)

inductive ValueKind where
  | text
  /-- A text that is not empty. -/
  | path
  | choice (choices : List String)
  | integer
  | word
  | number

def ValueKind.read (kind : ValueKind) (text : String) : Except UsageError Value :=
  let orUnreadable (value : Option Value) : Except UsageError Value :=
    match value with
    | some v => .ok v
    | none => .error .unreadableValue
  match kind with
  | .text => .ok (.text text)
  | .path => if text.isEmpty then .error .invalidValue else .ok (.text text)
  | .choice choices => if choices.contains text then .ok (.text text) else .error .invalidValue
  | .integer => orUnreadable ((Decimal.int64? text.toList).map .integer)
  | .word => orUnreadable ((Decimal.word64? text.toList).map .word)
  | .number => orUnreadable ((Decimal.float? text.toList).map .number)

structure OptionSpec where
  name : String
  letter : Option Char := none
  /-- What values it takes; `none` if it stands alone. -/
  kind : Option ValueKind := none
  /-- A negative number may follow it as its value. -/
  allowsNegative : Bool := false

structure Grammar where
  options : List OptionSpec
  /-- The command wants a word besides its options. -/
  wantsWord : Bool := false

structure Reading where
  values : List (String × Value) := []
  word : Option String := none
  /-- The last option, and its value if that has been read but not looked at. -/
  pending : Option (OptionSpec × Option String) := none
  /-- Everything that follows is a word. -/
  wordsOnly : Bool := false

namespace Reading

/-- Adds the value of an option, which may come once. -/
def add (reading : Reading) (option : OptionSpec) (value : Except UsageError Value) :
    Except UsageError Reading := do
  if (reading.values.lookup option.name).isSome then throw .repeatedOption
  return { reading with values := (option.name, ← value) :: reading.values }

/-- Looks at the value of the last option. -/
def settle (reading : Reading) : Except UsageError Reading :=
  match reading.pending with
  | none => .ok reading
  | some (_, none) => .error .invalidValue
  | some (option, some text) =>
    { reading with pending := none }.add option ((option.kind.getD .text).read text)

def readFlag (reading : Reading) (option : OptionSpec) : Except UsageError Reading := do
  (← reading.settle).add option (.ok .given)

/-- Reads an option that takes a value, which may be attached to it. -/
def readOption (reading : Reading) (option : OptionSpec) (kind : ValueKind) (attached : Option String) :
    Except UsageError Reading := do
  let reading ← reading.settle
  match attached with
  | some text => reading.add option (kind.read text)
  | none => return { reading with pending := some (option, none) }

def readLong (grammar : Grammar) (reading : Reading) (text : List Char) : Except UsageError Reading :=
  let (name, attached) :=
    match splitOnce? '=' text with
    | some (name, value) => (String.ofList name, some (String.ofList value))
    | none => (String.ofList text, none)
  if name = "help" then
    if attached.isSome then .error .unwantedValue
    else reading.settle.bind fun _ => .error .showHelp
  else
    match grammar.options.find? fun o => o.name == name with
    | none => .error .unknownArgument
    | some option =>
      match option.kind with
      | some kind => reading.readOption option kind attached
      | none => if attached.isSome then .error .unwantedValue else reading.readFlag option

/-- A value that is attached to a letter, perhaps by an equals sign. -/
def attachedTo (rest : List Char) : Option String :=
  match rest with
  | [] => none
  | '=' :: value => some (String.ofList value)
  | value => some (String.ofList value)

/-- Reads a letter behind a hyphen, and what is attached to it. -/
def readLetter (grammar : Grammar) (reading : Reading) (letter : Char) (rest : List Char) :
    Except UsageError Reading :=
  if letter = 'h' then reading.settle.bind fun _ => .error .showHelp
  else
    match grammar.options.find? fun o => o.letter == some letter with
    | none => .error .unknownArgument
    | some option =>
      match option.kind with
      | some kind => reading.readOption option kind (attachedTo rest)
      | none => reading.readFlag option

def readWord (grammar : Grammar) (reading : Reading) (text : String) : Except UsageError Reading :=
  if !grammar.wantsWord || reading.word.isSome then .error .unknownArgument
  else reading.settle.map fun reading => { reading with word := some text }

/-- Digits with at most one point, not at the beginning, and perhaps an `e` behind them that is not at
the end. -/
def isNumberLike (text : List Char) : Bool :=
  let mantissa := text.takeWhile (· != 'e')
  let exponent := text.dropWhile (· != 'e')
  let digits (cs : List Char) := cs.all Decimal.isDigit
  (match splitOnce? '.' mantissa with
    | some (whole, fraction) => !whole.isEmpty && digits whole && digits fraction
    | none => digits mantissa) &&
    (match exponent with
    | [] => true
    | _ :: power => !mantissa.isEmpty && !power.isEmpty && digits power)

/-- Reads a word or the value of the last option. -/
def readPlain (grammar : Grammar) (reading : Reading) (text : String) : Except UsageError Reading :=
  match reading.pending with
  | some (option, none) => .ok { reading with pending := some (option, some text) }
  | _ => reading.readWord grammar text

def wantsNegative (reading : Reading) : Bool :=
  match reading.pending with
  | some (option, none) => option.allowsNegative
  | _ => false

def read (grammar : Grammar) (reading : Reading) (text : String) : Except UsageError Reading :=
  if reading.wordsOnly then reading.readWord grammar text
  else
    match text.toList with
    | ['-', '-'] => .ok { reading with wordsOnly := true }
    | '-' :: '-' :: name => readLong grammar reading name
    | '-' :: letter :: rest =>
      if reading.wantsNegative && isNumberLike (letter :: rest) then reading.readPlain grammar text
      else readLetter grammar reading letter rest
    | _ => reading.readPlain grammar text

end Reading

def Grammar.read (grammar : Grammar) (arguments : List String) : Except UsageError Reading := do
  let reading ← (← arguments.foldlM (Reading.read grammar) {}).settle
  if grammar.wantsWord && reading.word.isNone then throw .missingWord
  return reading

end Concordance.CommandLine
