import CursorScope.Describe.Basic

/-!
# Nodes of Go

The kinds and descriptions of the nodes of Go trees. A declaration of types, variables or
constants holds specs, alone or in a group. A declaration with one spec is described as a whole,
so that its keyword belongs to it, and a group is described spec by spec: of a declaration and its
specs, each spec is told exactly once.
-/

namespace CursorScope.GoNodes

/-- The kinds of the node types of Go. -/
def kinds : List (String × Kind) :=
  [("function_declaration", .functionDecl),
    ("method_declaration", .functionDecl),
    ("type_declaration", .typeDecl),
    ("type_spec", .typeDecl),
    ("type_alias", .typeDecl),
    ("var_declaration", .variableDecl),
    ("var_spec", .variableDecl),
    ("const_declaration", .variableDecl),
    ("const_spec", .variableDecl),
    ("short_var_declaration", .variableDecl),
    ("func_literal", .closure),
    ("call_expression", .call),
    ("expression_case", .switchCase),
    ("type_case", .switchCase),
    ("default_case", .switchCase),
    ("communication_case", .switchCase),
    ("import_declaration", .importDecl)]

/-- The types of the specs that a declaration may hold. -/
def specTypes : String → List String
  | "type_declaration" => ["type_spec", "type_alias"]
  | "var_declaration" => ["var_spec"]
  | "const_declaration" => ["const_spec"]
  | _ => []

/-- The node types that hold specs. -/
def isDeclaration (type : String) : Bool := !(specTypes type).isEmpty

/-- The keyword that a spec of a type is declared with. -/
def specKeyword : String → String
  | "var_spec" => "var"
  | "const_spec" => "const"
  | _ => "type"

/-- The node type of a list that stands between a declaration and its specs. -/
def isSpecList (type : String) : Bool := "_spec_list".toList.isSuffixOf type.toList

/-- The specs of a declaration: its named children of an accepted type, and those of its lists of
specs. -/
def specs (declaration : Node) : List Node :=
  let accepted (node : Node) : Bool := (specTypes declaration.type).contains node.type
  declaration.namedChildren.flatMap fun child =>
    if accepted child then [child]
    else if isSpecList child.type then child.namedChildren.filter accepted
    else []

/-- The nearest declaration above a site. -/
def owner? (site : Site) : Option Node := site.above.find? (isDeclaration ·.type)

/-- The declaration above a site holds several specs. -/
def isGrouped (site : Site) : Bool :=
  match owner? site with
  | none => false
  | some declaration => (specs declaration).length > 1

/-- The spec by which the node at a site is described: the only spec of a declaration, or a spec
of a group itself. -/
def describedSpec? (site : Site) : Option Node :=
  if isDeclaration site.node.type then
    match specs site.node with
    | [spec] => some spec
    | _ => none
  else if isGrouped site then some site.node else none

/-- The type parameters, parameters and result of a function. -/
def resultDetail (node : Node) (doc : Document) : Except RangeError String := do
  let typeParameters ← node.fieldText "type_parameters" doc
  let parameters ← node.fieldText "parameters" doc
  let result ← node.fieldText "result" doc
  return typeParameters ++ parameters ++ if result.isEmpty then "" else " " ++ result

/-- The types that a struct embeds: those of its fields without a name. -/
def embeddedTypes (struct : Node) : List Node :=
  (struct.namedChildren.filter (·.type == "field_declaration_list")).flatMap fun list =>
    list.namedChildren.filterMap fun field =>
      if field.type = "field_declaration" ∧ (field.child? "name").isNone then field.child? "type"
      else none

/-- The word or text for the type on the right of a type spec. -/
def typeLabel (type : Node) (doc : Document) : Except RangeError String :=
  match type.type with
  | "struct_type" => .ok "struct"
  | "interface_type" => .ok "interface"
  | _ => type.text doc

/-- The description of a type spec. -/
def describeTypeSpec (spec : Node) (doc : Document) : Except RangeError Description := do
  let name ← spec.fieldText "name" doc
  let parameters ← spec.fieldText "type_parameters" doc
  if spec.type = "type_alias" then
    let detail := parameters ++ " = " ++ (← spec.fieldText "type" doc)
    return ⟨{ keyword := "type", name, detail }, name⟩
  else
    match spec.child? "type" with
    | none => return ⟨{ keyword := "type", name, detail := parameters }, name⟩
    | some type =>
        let detail := parameters ++ " " ++ (← typeLabel type doc)
        let supertypes ←
          if type.type = "struct_type" then supertypeList (embeddedTypes type) doc else pure ""
        return ⟨{ keyword := "type", name, detail, supertypes }, name⟩

/-- The description of a type declaration. -/
def describeType (site : Site) (doc : Document) : Except RangeError (Option Description) :=
  match describedSpec? site with
  | none => .ok none
  | some spec => some <$> describeTypeSpec spec doc

/-- The description of a function or method. -/
def describeFunction (site : Site) (doc : Document) : Except RangeError (Option Description) := do
  let name ← site.node.fieldText "name" doc
  let receiver ← site.node.fieldText "receiver" doc
  let keyword := if receiver.isEmpty then "func" else "func " ++ receiver
  let detail ← resultDetail site.node doc
  return some ⟨{ keyword, name, detail }, name⟩

/-- The description of a spec of variables or constants. -/
def describeValueSpec (spec : Node) (doc : Document) : Except RangeError Description := do
  let name := ", ".intercalate (← textsOf (spec.childrenAt "name") doc)
  let type ← spec.fieldText "type" doc
  let detail := if type.isEmpty then "" else " " ++ type
  return ⟨{ keyword := specKeyword spec.type, name, detail }, name⟩

/-- The description of a variable or constant declaration. -/
def describeVariable (site : Site) (doc : Document) : Except RangeError (Option Description) :=
  if site.node.type = "short_var_declaration" then do
    let name := Text.collapse (← site.node.fieldText "left" doc)
    return some ⟨{ name }, name⟩
  else
    match describedSpec? site with
    | none => .ok none
    | some spec => some <$> describeValueSpec spec doc

/-- The description of a function literal. -/
def describeClosure (node : Node) (doc : Document) : Except RangeError Description := do
  return ⟨{ keyword := "func", detail := ← resultDetail node doc }, "closure"⟩

/-- The classifier of Go trees. -/
def classifier : Classifier where
  kindOf := Classifier.kindIn kinds
  describeType := describeType
  describeFunction := describeFunction
  describeVariable := describeVariable
  describeClosure := describeClosure

end CursorScope.GoNodes
