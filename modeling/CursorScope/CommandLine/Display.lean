import CursorScope.Finder
import CursorScope.JsonValue
import CursorScope.Text.Markup

/-!
# Results on a terminal

How contexts and excerpts are shown: as pieces for a terminal, with markup in texts escaped, or as
a JSON value.
-/

namespace CursorScope

/-- A piece of output for a terminal. -/
inductive Display where
  | text (text : String) (style : Option String)
  | table (columns : List String) (rows : List (List String))
  | code (code lexer : String) (startLine : Nat) (lineNumbers : Bool)
  deriving DecidableEq, Repr

namespace Position

/-- The written form of a position in a table. -/
def colonText (p : Position) : String := s!"{p.line}:{p.character}"

/-- The value of a position. -/
def toJson (p : Position) : JsonValue :=
  .object [("line", .number p.line), ("character", .number p.character)]

end Position

namespace Range

/-- The written form of a range in a table. -/
def dashText (r : Range) : String := r.start.colonText ++ "-" ++ r.stop.colonText

/-- The value of a range. -/
def toJson (r : Range) : JsonValue :=
  .object [("start", r.start.toJson), ("end", r.stop.toJson)]

end Range

/-- The value of a scope. -/
def Scope.toJson (s : Scope) : JsonValue :=
  .object [("handle", .number s.handle), ("kind", .text s.kind.name),
    ("signature", .text s.signature), ("name", .text s.name),
    ("can_be_used_as_code_range", .boolean s.standsAlone), ("range", s.range.toJson)]

/-- The row of a scope in a table. -/
def Scope.row (s : Scope) : List String :=
  [s.kind.name, Text.escapeMarkup s.name, Text.escapeMarkup s.signature, s.range.dashText,
    if s.standsAlone then "yes" else "no"]

/-- The value of a breadcrumb. -/
def Breadcrumb.toJson (b : Breadcrumb) : JsonValue :=
  .object [("signature", .text b.signature), ("name", .text b.name), ("range", b.range.toJson)]

namespace Context

/-- The value of a context. -/
def toJson (c : Context) : JsonValue :=
  .object [("nodes", .array (c.scopes.map Scope.toJson)),
    ("includes", .array (c.includes.map .text)), ("imports", .array (c.imports.map .text))]

/-- The scopes of a context as a table, and their number. -/
def display (c : Context) : List Display :=
  [.table ["kind", "name", "signature", "range", "code range"] (c.scopes.map Scope.row),
    .text s!"({c.scopes.length} scopes)" none]

end Context

namespace Excerpt

/-- The value of an excerpt. -/
def toJson (e : Excerpt) : JsonValue :=
  .object [("context", e.context.toJson),
    ("scope_signatures", .array (e.breadcrumbs.map Breadcrumb.toJson)),
    ("code", .text e.code), ("code_range", e.codeRange.toJson),
    ("focused_range", e.target.toJson), ("truncated", .boolean e.truncated)]

/-- An excerpt for a terminal: the statements of the file, the breadcrumbs, the code, and a notice
when the code is cut short. -/
def display (e : Excerpt) (language : Language) : List Display :=
  let styled (style text : String) : Display := .text (Text.escapeMarkup text) (some style)
  (e.context.includes ++ e.context.imports).map (styled "dim") ++
    e.breadcrumbs.map (fun b => styled "cyan" b.signature) ++
    [.code e.code language.name (e.codeRange.start.line + 1) true] ++
    if e.truncated then
      [.text "[yellow]Focused code truncated to fit the line budget.[/yellow]" none]
    else []

end Excerpt

end CursorScope
