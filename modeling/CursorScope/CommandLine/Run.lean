import CursorScope.CommandLine.Command
import CursorScope.CommandLine.Display
import CursorScope.Files

/-!
# Running a command line

`CommandLine.run` carries out a command line on files that can be read, with the answer of the
parser for the text in question. The name of the command is looked at first, then the log level is
set, then the rest of the words is read. How words are read is left to a `Reader`. A request goes
wrong, in this order, for want of a source, a file, a language, or a selection that is not reversed.
-/

namespace CursorScope

/-- How a run ends. -/
inductive Outcome where
  | success
  | usage (e : UsageError)
  | unknownLevel (name : String)
  | unreadable (path : String) (e : FileError)
  | failure (e : ExcerptError)
  deriving DecidableEq, Repr

namespace Outcome

/-- The exit code of a run: a command line that is wrong in itself is told from a request that
fails. -/
def exitCode : Outcome → Nat
  | success => 0
  | usage _ => 2
  | unknownLevel _ | unreadable .. | failure _ => 1

/-- What is said about a run that does not succeed. -/
def message? : Outcome → Option String
  | success => none
  | usage e => some e.message
  | unknownLevel name => some ("Unknown level: " ++ Text.quoted name)
  | unreadable path e => some (e.message path)
  | failure e => some e.message

end Outcome

/-- What a run leaves behind: how it ends, what it writes and shows, and the log level. -/
structure Report where
  outcome : Outcome
  written : String
  shown : List Display
  level : Level
  records : List Record

namespace CommandLine

/-- What a run is given: the settings, the texts of files by their paths, and the answer of the
parser. -/
structure Setting where
  environment : Environment
  readFile : String → Except FileError String
  answer : ParserAnswer

/-- Why a source has no document: what is asked for is wrong, or a file is there but cannot be
read. -/
inductive SourceError where
  | request (e : RequestError)
  | unreadable (path : String) (e : FileError)
  deriving DecidableEq, Repr

/-- The document that a source names. The newlines of a file are unified. -/
def document (readFile : String → Except FileError String) (source : Source) :
    Except SourceError Document :=
  match source.code, source.path with
  | some code, _ => .ok (.ofText code "")
  | none, none => .error (.request .noSource)
  | none, some path =>
      match readFile path with
      | .error .missing => .error (.request (.missingFile path))
      | .error e => .error (.unreadable (Path.normalize path) e)
      | .ok text =>
          let unified := String.ofList (Text.unifyNewlines text.toList)
          .ok (.ofText unified (Path.normalize path))

/-- The document that a source names, and its finder. -/
def load (setting : Setting) (source : Source) (maxLines : Option Int) :
    Logged (Except SourceError (Document × Finder)) :=
  match document setting.readFile source with
  | .error e => pure (.error e)
  | .ok doc => do
      match ← Finder.forDocument doc source.language maxLines setting.environment with
      | .error e => return .error (.request (.language e))
      | .ok finder => return .ok (doc, finder)

/-- What a command ends with, writes and shows. -/
structure Result where
  outcome : Outcome
  written : String := ""
  shown : List Display := []

/-- The result of a command that cannot be carried out. -/
def Result.ofSourceError : SourceError → Result
  | .request e => { outcome := .usage (.request e) }
  | .unreadable path e => { outcome := .unreadable path e }

/-- Carries out `extract`. -/
def extract (setting : Setting) (request : ExtractRequest) : Logged Result := do
  match ← load setting request.source request.maxLines with
  | .error e => return .ofSourceError e
  | .ok (doc, finder) =>
      match request.target with
      | .error e => return .ofSourceError (.request e)
      | .ok target =>
          match ← finder.extract doc setting.answer target none with
          | .error e => return { outcome := .failure e }
          | .ok excerpt =>
              if request.json then
                return { outcome := .success, written := excerpt.toJson.render 0 ++ "\n" }
              else
                return { outcome := .success, shown := excerpt.display finder.language }

/-- Carries out `scopes`. -/
def scopes (setting : Setting) (request : ScopesRequest) : Logged Result := do
  match ← load setting request.source none with
  | .error e => return .ofSourceError e
  | .ok (doc, finder) =>
      match ← finder.collectContext doc setting.answer (.cursor request.cursor) with
      | .error e => return { outcome := .failure (.range e) }
      | .ok context => return { outcome := .success, shown := context.display }

/-- Carries out a command. -/
def perform (setting : Setting) : Command → Logged Result
  | .extract request => extract setting request
  | .scopes request => scopes setting request
  | .help => pure { outcome := .success }

/-- The level from which records are shown, if the environment names one. -/
def logLevel (environment : Environment) (verbose : Bool) : Except String Level :=
  if verbose then .ok .debug
  else
    let name := environment.levelName
    match Level.ofName? name with
    | some level => .ok level
    | none => .error name

/-- The report of a result at a log level. -/
def reportOf (level : Level) (result : Logged Result) : Report :=
  ⟨result.value.outcome, result.value.written, result.value.shown, level, result.records⟩

/-- The report of an outcome without results. -/
def reportOutcome (level : Level) (outcome : Outcome) : Report :=
  reportOf level (pure { outcome })

/-- How words are read: up to the name of a command, and after it. -/
structure Reader where
  opening : List String → Except UsageError (Option Opening)
  command : CommandName → List String → Except UsageError Command

/-- The reader that knows the options of the command line. -/
def Reader.ofOptions : Reader := ⟨Opening.read, Command.read⟩

/-- Carries out a command line whose words are read by a reader. -/
def runWith (reader : Reader) (setting : Setting) (words : List String) : Report :=
  match reader.opening words with
  | .error e => reportOutcome .warning (.usage e)
  | .ok none => reportOutcome .warning .success
  | .ok (some opening) =>
      match logLevel setting.environment opening.verbose with
      | .error name => reportOutcome .warning (.unknownLevel name)
      | .ok level =>
          match reader.command opening.command opening.words with
          | .error e => reportOutcome level (.usage e)
          | .ok command => reportOf level (perform setting command)

/-- Carries out a command line. -/
def run (setting : Setting) (words : List String) : Report := runWith .ofOptions setting words

end CommandLine

end CursorScope
