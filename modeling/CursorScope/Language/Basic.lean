import CursorScope.Path
import CursorScope.Text.Case
import CursorScope.Text.Quoted

/-!
# Languages

The languages of documents. A language is given by one of its names, in any case and with blanks
around it, or found by the suffix of a path. A given name hides the path.
-/

namespace CursorScope

/-- The languages of documents. -/
inductive Language where
  | c
  | go
  | python
  deriving DecidableEq, Repr

/-- Why a document has no language. -/
inductive LanguageError where
  | unsupportedName (name : String)
  | unsupportedSuffix (suffix : String)
  | unspecified
  deriving DecidableEq, Repr

namespace Language

/-- All languages, in the order of their names. -/
def all : List Language := [c, go, python]

/-- The name of a language. -/
def name : Language → String
  | c => "c"
  | go => "go"
  | python => "python"

/-- The names of all languages as a list in messages. -/
def supportedText : String :=
  "[" ++ ", ".intercalate (all.map fun language => Text.quoted language.name) ++ "]"

/-- All names that a language goes by. -/
def aliases : List (String × Language) :=
  [("c", c), ("h", c), ("go", go), ("golang", go), ("python", python), ("py", python),
    ("python3", python)]

/-- The suffixes of the paths of a language. -/
def suffixes : List (String × Language) :=
  [(".c", c), (".h", c), (".go", go), (".py", python), (".pyi", python)]

/-- The language of a name, in any case and with blanks around it. -/
def ofName (name : String) : Except LanguageError Language :=
  match aliases.lookup (Text.toLower (Text.trim name)) with
  | some language => .ok language
  | none => .error (.unsupportedName name)

/-- The language of the document at a path, by its suffix in any case. -/
def ofPath (path : String) : Except LanguageError Language :=
  let suffix := Text.toLower (Path.suffix path)
  match suffixes.lookup suffix with
  | some language => .ok language
  | none => .error (.unsupportedSuffix suffix)

/-- The language of a given name, or else of a path. An empty name counts as none. -/
def resolve (name path : Option String) : Except LanguageError Language :=
  match name.filter (!·.isEmpty), path with
  | some name, _ => ofName name
  | none, some path => ofPath path
  | none, none => .error .unspecified

/-- A language goes by its own name. -/
theorem ofName_name (language : Language) : ofName language.name = .ok language := by
  cases language <;> rfl

end Language

namespace LanguageError

/-- The text of a language error. -/
def message : LanguageError → String
  | .unsupportedName name =>
      "Unsupported language '" ++ name ++ "'. Supported: " ++ Language.supportedText
  | .unsupportedSuffix suffix => "Unsupported file extension: " ++ Text.quoted suffix
  | .unspecified => "Language must be provided when no file path is available."

end LanguageError

end CursorScope
