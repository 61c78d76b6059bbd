import CursorScope.Kind
import CursorScope.Signature
import CursorScope.Tree.Location

/-!
# Descriptions of nodes

A description gives a recognized node its signature and its name. Each language brings a
`Classifier`: the kinds of its node types, and a rule for each kind of declaration. A rule may
decline a node. All rules read texts of the document, so a rule fails when a node that it reads
ends before it starts.
-/

namespace CursorScope

/-- What is told of a recognized node. -/
structure Description where
  signature : Signature
  name : String

/-- What the nodes of a language stand for, and how they are described. -/
structure Classifier where
  /-- The kind of a node type. -/
  kindOf : String → Kind
  /-- The description of a type declaration. -/
  describeType : Site → Document → Except RangeError (Option Description)
  /-- The description of a function declaration. -/
  describeFunction : Site → Document → Except RangeError (Option Description)
  /-- The description of a variable declaration. -/
  describeVariable : Site → Document → Except RangeError (Option Description)
  /-- The description of a closure. -/
  describeClosure : Node → Document → Except RangeError Description

namespace Classifier

/-- The kind that a table gives to a node type. -/
def kindIn (table : List (String × Kind)) (type : String) : Kind :=
  (table.lookup type).getD .unrecognized

/-- The classifier of a bare table of kinds: it declines declarations, and a closure has no more
to tell than that it is one. -/
def ofKinds (table : List (String × Kind)) : Classifier where
  kindOf := kindIn table
  describeType _ _ := .ok none
  describeFunction _ _ := .ok none
  describeVariable _ _ := .ok none
  describeClosure _ _ := .ok ⟨{ keyword := "closure" }, "closure"⟩

end Classifier

/-- The texts of nodes, in order. -/
def textsOf (nodes : List Node) (doc : Document) : Except RangeError (List String) :=
  nodes.mapM (·.text doc)

/-- The texts of nodes as a list of supertypes: each without the blanks and commas around it. -/
def supertypeList (nodes : List Node) (doc : Document) : Except RangeError String := do
  let texts ← textsOf nodes doc
  return ", ".intercalate (texts.map fun text => Text.trimChar ',' (Text.trim text))

end CursorScope
