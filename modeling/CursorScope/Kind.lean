import CursorScope.Text.Quoted

/-!
# Kinds of nodes

What a node of a syntax tree stands for. The scope kinds are those that can enclose a cursor. All
of them but variables and calls stand alone as a block of code.
-/

namespace CursorScope

/-- What a node stands for. -/
inductive Kind where
  | typeDecl
  | functionDecl
  | variableDecl
  | closure
  | call
  | switchCase
  | importDecl
  | includeDecl
  | unrecognized
  deriving DecidableEq, Repr

namespace Kind

/-- All kinds. -/
def all : List Kind :=
  [typeDecl, functionDecl, variableDecl, closure, call, switchCase, importDecl, includeDecl,
    unrecognized]

/-- The name of a kind. -/
def name : Kind → String
  | typeDecl => "type"
  | functionDecl => "function"
  | variableDecl => "variable"
  | closure => "closure"
  | call => "call"
  | switchCase => "switch_case"
  | importDecl => "import"
  | includeDecl => "include"
  | unrecognized => "unrecognized"

/-- The kind of a name. -/
def ofName? (name : String) : Option Kind := all.find? (·.name == name)

/-- The complaint about a name that no kind has. -/
def unknownNameText (name : String) : String := Text.quoted name ++ " is not a valid NodeKind"

/-- The kinds of nodes that can enclose a cursor. -/
def isScope : Kind → Bool
  | typeDecl | functionDecl | variableDecl | closure | call | switchCase => true
  | importDecl | includeDecl | unrecognized => false

/-- The kinds whose code can be shown without the code around it. A variable or a call alone would
leave a dangling statement. -/
def standsAlone : Kind → Bool
  | variableDecl | call => false
  | _ => true

/-- All kinds stand alone but variables and calls. -/
theorem standsAlone_iff {kind : Kind} :
    kind.standsAlone = true ↔ kind ≠ .variableDecl ∧ kind ≠ .call := by
  cases kind <;> decide

theorem ofName?_name (kind : Kind) : ofName? kind.name = some kind := by
  cases kind <;> rfl

end Kind

end CursorScope
