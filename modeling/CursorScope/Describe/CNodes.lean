import CursorScope.Describe.Basic

/-!
# Nodes of C

The kinds and descriptions of the nodes of C trees. A declarator wraps the name it declares in
pointers, arrays, parentheses, initializers and parameter lists; `Declarator.ofNode` looks through
the wrappers, counts the pointers and keeps the outermost parameter list.
-/

namespace CursorScope.CNodes

/-- The kinds of the node types of C. -/
def kinds : List (String × Kind) :=
  [("function_definition", .functionDecl),
    ("struct_specifier", .typeDecl),
    ("union_specifier", .typeDecl),
    ("enum_specifier", .typeDecl),
    ("type_definition", .typeDecl),
    ("declaration", .variableDecl),
    ("call_expression", .call),
    ("case_statement", .switchCase),
    ("preproc_include", .includeDecl)]

/-- The node types of modifiers. -/
def modifierTypes : List String := ["storage_class_specifier", "type_qualifier"]

/-- The node types of declarators that only wrap another one. -/
def wrapperTypes : List String :=
  ["pointer_declarator", "init_declarator", "array_declarator", "parenthesized_declarator",
    "attributed_declarator"]

/-- The modifiers of a declaration, separated by spaces. -/
def modifiers (node : Node) (doc : Document) : Except RangeError String := do
  let texts ← textsOf (node.children.filter fun child => modifierTypes.contains child.type) doc
  return " ".intercalate texts

/-- What a declarator declares: the node of the name, the number of pointers around it, and the
node of the parameters. -/
structure Declarator where
  identifier : Node
  pointers : Nat
  parameters : Option Node

/-- The declarator inside a declarator: the one it names, or its first named child that is no
attribute. -/
def innerDeclarator? (node : Node) : Option Node :=
  match node.child? "declarator" with
  | some inner => some inner
  | none => node.namedChildren.find? (·.type != "attribute_specifier")

theorem mem_children_of_innerDeclarator? {node inner : Node}
    (h : innerDeclarator? node = some inner) : inner ∈ node.children := by
  unfold innerDeclarator? at h
  split at h
  · rename_i child hchild
    exact Option.some.inj h ▸ Node.mem_children_of_child? hchild
  · exact Node.mem_children_of_mem_namedChildren (List.mem_of_find?_eq_some h)

namespace Declarator

/-- The declarator of a node, inside `pointers` pointers and with the parameters of a function
declarator around it. A second function declarator is not looked through. -/
def inside (pointers : Nat) (parameters : Option Node) (node : Node) : Declarator :=
  let pointers := if node.type = "pointer_declarator" then pointers + 1 else pointers
  let opensParameters := node.type = "function_declarator" ∧ parameters.isNone
  if opensParameters ∨ wrapperTypes.contains node.type then
    let parameters := if opensParameters then node.child? "parameters" else parameters
    match _h : innerDeclarator? node with
    | none => ⟨node, pointers, parameters⟩
    | some inner => inside pointers parameters inner
  else ⟨node, pointers, parameters⟩
termination_by sizeOf node
decreasing_by exact Node.sizeOf_lt_of_mem_children (mem_children_of_innerDeclarator? _h)

/-- The declarator of a node. -/
def ofNode (node : Node) : Declarator := inside 0 none node

/-- A star for each pointer. -/
def stars (d : Declarator) : String := .ofList (List.replicate d.pointers '*')

/-- The text of the parameters, empty when there are none. -/
def parameterText (d : Declarator) (doc : Document) : Except RangeError String :=
  match d.parameters with
  | none => .ok ""
  | some parameters => parameters.text doc

end Declarator

/-- The word for a kind of structured type: its node type without the ending `_specifier`. -/
def specifierWord (type : String) : String :=
  let ending := "_specifier".toList
  if ending.isSuffixOf type.toList then
    .ofList (type.toList.take (type.toList.length - ending.length))
  else type

/-- The declarators that a declaration holds. -/
def declarators (node : Node) : List Declarator :=
  (node.childrenAt "declarator").map Declarator.ofNode

/-- The names that declarators declare, separated by commas. -/
def declaredNames (ds : List Declarator) (doc : Document) : Except RangeError String := do
  return ", ".intercalate (← textsOf (ds.map (·.identifier)) doc)

/-- The description of a type definition. -/
def describeTypedef (node : Node) (doc : Document) : Except RangeError Description := do
  let name ← declaredNames (declarators node) doc
  let keyword ← match node.child? "type" with
    | none => pure "typedef"
    | some underlying =>
        if (underlying.child? "body").isSome then
          pure ("typedef " ++ specifierWord underlying.type)
        else
          pure ("typedef " ++ (← underlying.text doc))
  return ⟨{ keyword, name }, name⟩

/-- The description of a type definition, or of a structured type with a body. -/
def describeType (site : Site) (doc : Document) : Except RangeError (Option Description) :=
  let node := site.node
  if node.type = "type_definition" then some <$> describeTypedef node doc
  else if (node.child? "body").isNone then .ok none
  else do
    let keyword := specifierWord node.type
    let name ← node.fieldText "name" doc
    return some ⟨{ keyword, name }, if name.isEmpty then keyword else name⟩

/-- The description of a function definition. -/
def describeFunction (site : Site) (doc : Document) : Except RangeError (Option Description) :=
  let node := site.node
  match node.child? "declarator" with
  | none => .ok none
  | some child => do
      let declarator := Declarator.ofNode child
      let name ← declarator.identifier.text doc
      let modifiers ← modifiers node doc
      let keyword := (← node.fieldText "type" doc) ++ declarator.stars
      let detail ← declarator.parameterText doc
      return some ⟨{ modifiers, keyword, name, detail }, name⟩

/-- The description of a declaration. Pointers and parameters show only when it declares a single
name. -/
def describeVariable (site : Site) (doc : Document) : Except RangeError (Option Description) :=
  let node := site.node
  match declarators node with
  | [] => .ok none
  | ds => do
      let name ← declaredNames ds doc
      let detail ← match ds with
        | [d] => d.parameterText doc
        | _ => pure ""
      let modifiers ← modifiers node doc
      let stars := match ds with
        | [d] => d.stars
        | _ => ""
      let keyword := (← node.fieldText "type" doc) ++ stars
      return some ⟨{ modifiers, keyword, name, detail }, name⟩

/-- The classifier of C trees. -/
def classifier : Classifier where
  kindOf := Classifier.kindIn kinds
  describeType := describeType
  describeFunction := describeFunction
  describeVariable := describeVariable
  describeClosure := (Classifier.ofKinds kinds).describeClosure

end CursorScope.CNodes
