import CursorScope.CommandLine.Arguments
import CursorScope.Range

/-!
# Commands

The commands of the command line and what is asked of them. `extract` shows the excerpt around a
selection, `scopes` lists the scopes around a cursor. Options that belong to the whole command
line come before the name of the command.
-/

namespace CursorScope

namespace OptionSpec

/-- The line of the cursor. -/
def line : OptionSpec := ⟨"line", some 'l', .natural, true⟩

/-- The character of the cursor on its line. -/
def character : OptionSpec := ⟨"character", some 'c', .natural, true⟩

/-- A text in place of a file. -/
def code : OptionSpec := ⟨"code", none, .text, false⟩

/-- The name of the language. -/
def language : OptionSpec := ⟨"language", none, .text, false⟩

/-- The line where the selection ends. -/
def endLine : OptionSpec := ⟨"end-line", none, .natural, false⟩

/-- The character where the selection ends. -/
def endCharacter : OptionSpec := ⟨"end-character", none, .natural, false⟩

/-- The line budget. -/
def maxLines : OptionSpec := ⟨"max-lines", none, .integer, false⟩

/-- The result is written as JSON. -/
def json : OptionSpec := ⟨"json", none, .flag, false⟩

/-- The usage is explained. -/
def help : OptionSpec := ⟨"help", some 'h', .flag, false⟩

/-- Everything is logged. -/
def verbose : OptionSpec := ⟨"verbose", some 'v', .flag, false⟩

end OptionSpec

open OptionSpec in
/-- The options of the whole command line. -/
def commonOptions : List OptionSpec :=
  [verbose, ⟨"install-completion", none, .flag, false⟩, ⟨"show-completion", none, .flag, false⟩,
    help]

open OptionSpec in
/-- The options of `extract`. -/
def extractOptions : List OptionSpec :=
  [line, character, code, language, endLine, endCharacter, maxLines, json, help]

open OptionSpec in
/-- The options of `scopes`. -/
def scopesOptions : List OptionSpec := [line, character, code, language, help]

/-- Where the text comes from, and the name of its language. A given text hides the path. -/
structure Source where
  path : Option String
  code : Option String
  language : Option String
  deriving DecidableEq, Repr

/-- What is asked of `extract`. -/
structure ExtractRequest where
  source : Source
  start : Position
  endLine : Option Nat
  endCharacter : Option Nat
  maxLines : Option Int
  json : Bool
  deriving DecidableEq, Repr

/-- What is asked of `scopes`. -/
structure ScopesRequest where
  source : Source
  cursor : Position
  deriving DecidableEq, Repr

/-- The selection of a request: missing parts of its end are those of its start. -/
def ExtractRequest.target (request : ExtractRequest) : Except RequestError Range :=
  let stop : Position :=
    ⟨request.endLine.getD request.start.line, request.endCharacter.getD request.start.character⟩
  if h : request.start ≤ stop then .ok ⟨request.start, stop, h⟩ else .error .reversedSelection

/-- The names of the commands. -/
inductive CommandName where
  | extract
  | scopes
  deriving DecidableEq, Repr

namespace CommandName

/-- All commands. -/
def all : List CommandName := [extract, scopes]

/-- The word for a command. -/
def word : CommandName → String
  | extract => "extract"
  | scopes => "scopes"

/-- The command of a word. -/
def ofWord? (word : String) : Option CommandName := all.find? (·.word == word)

/-- The words for commands that are similar to a word. -/
def similar (word : String) : List String := Text.closest 3 word (all.map CommandName.word)

end CommandName

/-- A command with what is asked of it. -/
inductive Command where
  | extract (request : ExtractRequest)
  | scopes (request : ScopesRequest)
  | help
  deriving DecidableEq, Repr

namespace Arguments

/-- The source that arguments name. -/
def source (arguments : Arguments) : Source :=
  ⟨arguments.operands.head?, arguments.value? .code, arguments.value? .language⟩

/-- The position of the cursor that arguments name. -/
def cursor (arguments : Arguments) : Except UsageError Position := do
  return ⟨← arguments.natural .line, ← arguments.natural .character⟩

end Arguments

namespace Command

/-- The words after the name of a command, as the command reads them. -/
def read (name : CommandName) (words : List String) : Except UsageError Command := do
  let specs := match name with
    | .extract => extractOptions
    | .scopes => scopesOptions
  let arguments ← readWords specs true words
  if arguments.has .help then return .help
  arguments.check specs 1
  let cursor ← arguments.cursor
  match name with
  | .extract =>
      let endLine ← arguments.natural? .endLine
      let endCharacter ← arguments.natural? .endCharacter
      let maxLines ← arguments.integer? .maxLines
      return .extract
        ⟨arguments.source, cursor, endLine, endCharacter, maxLines, arguments.has .json⟩
  | .scopes => return .scopes ⟨arguments.source, cursor⟩

end Command

/-- A command line up to the name of its command. -/
structure Opening where
  verbose : Bool
  command : CommandName
  words : List String
  deriving DecidableEq, Repr

/-- The opening of a command line, and nothing when only help is asked for. Words that do not begin
with the name of a command, although two dashes may stand in front of them, are read as options
once more; commands are then suggested for the first word that is no option. -/
def Opening.read (words : List String) : Except UsageError (Option Opening) := do
  let arguments ← readWords commonOptions false words
  if words.isEmpty || arguments.has .help then return none
  match arguments.operands with
  | [] => .error .noCommand
  | word :: rest =>
      match CommandName.ofWord? word with
      | some name => return some ⟨arguments.has .verbose, name, rest⟩
      | none =>
          let again ← readWords commonOptions false (word :: rest)
          if again.has .help then return none
          .error (.noSuchCommand word (again.operands.head?.elim [] CommandName.similar))

end CursorScope
