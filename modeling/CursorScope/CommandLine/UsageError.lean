import CursorScope.CommandLine.Number
import CursorScope.Language.Basic
import CursorScope.Text.Control

/-!
# Usage errors

What can be wrong with a command line. The first group of errors is about the words themselves,
the second about what they ask for. Words that are repeated in a message show their control
characters.
-/

namespace CursorScope

/-- Why a request cannot be carried out. -/
inductive RequestError where
  | noSource
  | missingFile (path : String)
  | language (e : LanguageError)
  | reversedSelection
  deriving DecidableEq, Repr

/-- The text of a request error. -/
def RequestError.message : RequestError → String
  | noSource => "Either PATH or --code must be given."
  | missingFile path => "File not found: " ++ path
  | language e => e.message
  | reversedSelection => "Selection end precedes its start."

/-- What is wrong with a command line. -/
inductive UsageError where
  | noSuchOption (name : String) (similar : List String)
  | noValue (option : String)
  | needlessValue (option : String)
  | noCommand
  | noSuchCommand (name : String) (similar : List String)
  | missingOption (label : String)
  | badNumber (label : String) (problem : NumberProblem)
  | extraArguments (arguments : List String)
  | request (e : RequestError)
  deriving DecidableEq, Repr

namespace UsageError

/-- The hint at options with a similar name. -/
def optionHint : List String → String
  | [] => ""
  | names => " (Possible options: " ++ ", ".intercalate (names.mergeSort (· ≤ ·)) ++ ")"

/-- The hint at commands with a similar name. -/
def commandHint : List String → String
  | [] => ""
  | names => " Did you mean " ++ ", ".intercalate (names.map Text.quoted) ++ "?"

/-- The text of a usage error. -/
def message : UsageError → String
  | noSuchOption name similar =>
      "No such option: " ++ Text.showControls name ++ optionHint similar
  | noValue option => "Option " ++ Text.quoted option ++ " requires an argument."
  | needlessValue option => "Option " ++ Text.quoted option ++ " does not take a value."
  | noCommand => "Missing command."
  | noSuchCommand name similar =>
      "No such command " ++ Text.quoted name ++ "." ++ commandHint similar
  | missingOption label => "Missing option " ++ label ++ "."
  | badNumber label problem => "Invalid value for " ++ label ++ ": " ++ problem.message
  | extraArguments arguments =>
      "Got unexpected extra argument(s) (" ++ Text.showControls (" ".intercalate arguments) ++ ")"
  | request e => "Invalid value: " ++ e.message

end UsageError

end CursorScope
