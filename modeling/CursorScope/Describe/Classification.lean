import CursorScope.Describe.Call

/-!
# Classification of nodes

`Classifier.classify` finds out what the node at a site stands for and describes it. Nodes of no
scope kind are never described, and a rule may decline a node of its kind.
-/

namespace CursorScope

/-- What a recognized node stands for, with its signature on one line and its name. -/
structure Classification where
  kind : Kind
  signature : String
  name : String
  deriving DecidableEq, Repr

namespace Classification

/-- A recognized node stands alone when its kind does. -/
def standsAlone (c : Classification) : Bool := c.kind.standsAlone

/-- The classification of a described node. -/
def ofDescription (kind : Kind) (d : Description) : Classification :=
  ⟨kind, d.signature.render, d.name⟩

end Classification

namespace Classifier

/-- The description of the node at a site under the rule for a kind. -/
def describe (classifier : Classifier) (kind : Kind) (site : Site) (doc : Document) :
    Except RangeError (Option Description) :=
  match kind with
  | .typeDecl => classifier.describeType site doc
  | .functionDecl => classifier.describeFunction site doc
  | .variableDecl => classifier.describeVariable site doc
  | .closure => some <$> classifier.describeClosure site.node doc
  | .call => some <$> classifier.describeCall site.node doc
  | .switchCase => some <$> describeCase site.node doc
  | .importDecl | .includeDecl | .unrecognized => .ok none

/-- The classification of the node at a site, and nothing when it is not recognized. -/
def classify (classifier : Classifier) (site : Site) (doc : Document) :
    Except RangeError (Option Classification) := do
  let kind := classifier.kindOf site.node.type
  let description ← classifier.describe kind site doc
  return description.map (.ofDescription kind)

end Classifier

end CursorScope
