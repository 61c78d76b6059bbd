import CursorScope.Excerpt
import CursorScope.Language.Classifier
import CursorScope.RawDocument

/-!
# Finders

A finder makes excerpts of the documents of one language, within its budget unless a request has
one of its own. A text that cannot be parsed has an empty context and is shown as a plain file. For
raw documents there is a version of each step that also fails when their lines have no encoding.
-/

namespace CursorScope

/-- The language of the documents, and the line budget of requests without their own. -/
structure Finder where
  language : Language
  budget : Budget
  deriving DecidableEq

/-- Why there is no excerpt: a node that is read ends before it starts, or the focus starts past
the end of the document. -/
inductive ExcerptError where
  | range (e : RangeError)
  | missingLine (e : MissingLine)
  deriving DecidableEq, Repr

/-- The text of an excerpt error. -/
def ExcerptError.message : ExcerptError → String
  | range e => e.message
  | missingLine e => s!"The document has no line {e.line}"

/-- Why nothing is made of a raw document: its lines have no encoding, or an error of the kind that
documents have. -/
inductive RawError (ε : Type) where
  | encoding (e : EncodingError)
  | other (e : ε)
  deriving DecidableEq, Repr

namespace Finder

/-- The finder of a language whose budget is asked for or comes from the environment. -/
def ofLanguage (language : Language) (maxLines : Option Int) (env : Environment) :
    Logged Finder := do
  let budget ← match maxLines with
    | none => env.budget
    | some n => Budget.requested n
  return ⟨language, budget⟩

/-- The finder for a document, whose language is named or found by where it comes from. -/
def forDocument (doc : Document) (name : Option String) (maxLines : Option Int)
    (env : Environment) : Logged (Except LanguageError Finder) :=
  let path := if doc.uri.isEmpty then none else some doc.uri
  match Language.resolve name path with
  | .error e => pure (.error e)
  | .ok language => .ok <$> ofLanguage language maxLines env

/-- The record that a text cannot be parsed. -/
def reportNoContext (uri : String) (e : ParseError) : Logged Unit :=
  .write .warning ("No structural context for " ++ Document.nameOf uri ++ ": " ++ e.message)

/-- The context of a target in a document with a tree. -/
def contextIn (finder : Finder) (tree : Tree) (doc : Document) (target : Range) :
    Logged (Except RangeError Context) := do
  match finder.language.classifier.contextAt tree doc target with
  | .error e => return .error e
  | .ok context =>
      .write .debug (s!"Found {context.scopes.length} scope(s) and " ++
        s!"{context.imports.length} import(s) in " ++ Document.nameOf doc.uri)
      return .ok context

/-- The context of a target in a document, given the answer of the parser for it. -/
def collectContext (finder : Finder) (doc : Document) (answer : ParserAnswer) (target : Range) :
    Logged (Except RangeError Context) := do
  match ← finder.language.parse answer with
  | .error e =>
      reportNoContext doc.uri e
      return .ok .empty
  | .ok tree => finder.contextIn tree doc target

/-- The budget of a request, or else that of the finder. -/
def requestedBudget (finder : Finder) : Option Int → Logged Budget
  | none => pure finder.budget
  | some n => Budget.requested n

/-- The excerpt of a document with a context around a target. -/
def excerptIn (context : Context) (doc : Document) (target : Range) (budget : Budget) :
    Logged (Except ExcerptError Excerpt) := do
  match ← context.reportedExcerpt doc target budget with
  | .error e => return .error (.missingLine e)
  | .ok excerpt => return .ok excerpt

/-- The excerpt of a document around a target, within the budget of the request or else of the
finder. -/
def extract (finder : Finder) (doc : Document) (answer : ParserAnswer) (target : Range)
    (maxLines : Option Int) : Logged (Except ExcerptError Excerpt) := do
  let budget ← finder.requestedBudget maxLines
  match ← finder.collectContext doc answer target with
  | .error e => return .error (.range e)
  | .ok context => excerptIn context doc (doc.clamp target) budget

/-! ## Raw documents -/

/-- The context of a target in a raw document. Its lines are encoded when there is a tree. -/
def collectContextRaw (finder : Finder) (doc : RawDocument) (answer : ParserAnswer)
    (target : Range) : Logged (Except (RawError RangeError) Context) := do
  match ← finder.language.parse (doc.answer answer) with
  | .error e =>
      reportNoContext doc.uri e
      return .ok .empty
  | .ok tree =>
      match doc.encoded with
      | .error e => return .error (.encoding e)
      | .ok encoded =>
          let found ← finder.contextIn tree encoded target
          return found.mapError .other

/-- The excerpt of a raw document around a target. Its lines are encoded when there is a context. -/
def extractRaw (finder : Finder) (doc : RawDocument) (answer : ParserAnswer) (target : Range)
    (maxLines : Option Int) : Logged (Except (RawError ExcerptError) Excerpt) := do
  let budget ← finder.requestedBudget maxLines
  match ← finder.collectContextRaw doc answer target with
  | .error (.encoding e) => return .error (.encoding e)
  | .error (.other e) => return .error (.other (.range e))
  | .ok context =>
      match doc.encoded with
      | .error e => return .error (.encoding e)
      | .ok encoded =>
          let made ← excerptIn context encoded (encoded.clamp target) budget
          return made.mapError .other

end Finder

end CursorScope
