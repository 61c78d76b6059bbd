import CursorScope.Describe.Basic

/-!
# Nodes of Python

The kinds and descriptions of the nodes of Python trees. Decorators belong to the node above a
definition and lead its signature; a function may be asynchronous; supertypes are the arguments
of a class.
-/

namespace CursorScope.PythonNodes

/-- The kinds of the node types of Python. -/
def kinds : List (String × Kind) :=
  [("class_definition", .typeDecl),
    ("function_definition", .functionDecl),
    ("assignment", .variableDecl),
    ("lambda", .closure),
    ("call", .call),
    ("case_clause", .switchCase),
    ("import_statement", .importDecl),
    ("import_from_statement", .importDecl),
    ("future_import_statement", .importDecl)]

/-- The decorators that the node above a site holds for it. -/
def decorators (site : Site) : List Node :=
  match site.parent? with
  | none => []
  | some parent =>
      if parent.type = "decorated_definition" then
        parent.children.filter (·.type == "decorator")
      else []

/-- The description of a class. -/
def describeType (site : Site) (doc : Document) : Except RangeError (Option Description) := do
  let node := site.node
  let name ← node.fieldText "name" doc
  let supertypes ← match node.child? "superclasses" with
    | none => pure ""
    | some arguments =>
        supertypeList (arguments.namedChildren.filter (·.type != "comment")) doc
  let modifiers := " ".intercalate (← textsOf (decorators site) doc)
  let detail ← node.fieldText "type_parameters" doc
  return some ⟨{ modifiers, keyword := "class", name, detail, supertypes }, name⟩

/-- The description of a function. -/
def describeFunction (site : Site) (doc : Document) : Except RangeError (Option Description) := do
  let node := site.node
  let name ← node.fieldText "name" doc
  let decoration ← textsOf (decorators site) doc
  let async := if node.children.any (·.type == "async") then ["async"] else []
  let typeParameters ← node.fieldText "type_parameters" doc
  let parameters ← node.fieldText "parameters" doc
  let result ← node.fieldText "return_type" doc
  let detail := typeParameters ++ parameters ++ if result.isEmpty then "" else " -> " ++ result
  let modifiers := " ".intercalate (decoration ++ async)
  return some ⟨{ modifiers, keyword := "def", name, detail }, name⟩

/-- The description of an assignment. -/
def describeVariable (site : Site) (doc : Document) : Except RangeError (Option Description) := do
  let name := Text.collapse (← site.node.fieldText "left" doc)
  let annotation ← site.node.fieldText "type" doc
  let detail := if annotation.isEmpty then "" else ": " ++ annotation
  return some ⟨{ name, detail }, name⟩

/-- The description of a lambda. -/
def describeClosure (node : Node) (doc : Document) : Except RangeError Description := do
  return ⟨{ keyword := "lambda", name := ← node.fieldText "parameters" doc }, "closure"⟩

/-- The classifier of Python trees. -/
def classifier : Classifier where
  kindOf := Classifier.kindIn kinds
  describeType := describeType
  describeFunction := describeFunction
  describeVariable := describeVariable
  describeClosure := describeClosure

end CursorScope.PythonNodes
