import CursorScope.Language.Basic
import CursorScope.Log
import CursorScope.Tree.Basic

/-!
# Reading the answer of a parser

A parser answers with a tree, with nothing, or with a complaint. A tree is refused when its root is
an error, or when the first construct of the text is an error or lies inside one. Comments are not
constructs. Errors further on are tolerated, because code that is being edited is rarely complete.
-/

namespace CursorScope

/-- What a parser gives back for a text. -/
inductive ParserAnswer where
  | parsed (tree : Tree)
  | nothing
  | complaint (reason : String)

/-- Why a text has no usable tree. -/
inductive ParseFailure where
  | complaint (reason : String)
  | noTree
  | unreadableStart
  deriving DecidableEq, Repr

namespace ParseFailure

/-- The reason of a failure in words. -/
def reason : ParseFailure → String
  | complaint reason => reason
  | noTree => "parser returned no tree"
  | unreadableStart => "source does not start with a recognizable construct"

end ParseFailure

/-- A failure to parse a text of a language. -/
structure ParseError where
  language : Language
  failure : ParseFailure
  deriving DecidableEq, Repr

/-- The text of a parse error. -/
def ParseError.message (e : ParseError) : String :=
  "Could not parse " ++ e.language.name ++ " source: " ++ e.failure.reason

namespace Node

/-- A node ends before a byte: at an earlier one, or, unless the node is empty, at the byte
itself. -/
def endsBefore (node : Node) (byte : Nat) : Bool :=
  node.endByte < byte || node.startByte != node.endByte && node.endByte ≤ byte

mutual

/-- The nodes below a node on the way to a byte, the outermost first. -/
def pathTo (byte : Nat) : Node → List Node
  | ⟨_, _, _, _, _, _, _, _, _, children⟩ => pathAmong byte children

/-- The nodes on the way to a byte from some siblings on. The first sibling that does not end
before the byte is entered, unless it starts after the byte. -/
def pathAmong (byte : Nat) : List Node → List Node
  | [] => []
  | node :: rest =>
      if node.endsBefore byte then pathAmong byte rest
      else if byte < node.startByte then []
      else node :: node.pathTo byte

end

theorem pathTo_eq (byte : Nat) (node : Node) : node.pathTo byte = pathAmong byte node.children := by
  cases node
  rw [pathTo]

/-- The node type of errors. -/
def errorType : String := "ERROR"

/-- A node that stands for an error, or for missing text. -/
def isFaulty (node : Node) : Bool := node.type == errorType || node.missing

/-- The first construct below a root, comments left out. -/
def firstConstruct? (root : Node) : Option Node :=
  root.namedChildren.find? (·.type != "comment")

/-- The text below a root starts with an error, or inside one. -/
def opensWithError (root : Node) : Bool :=
  match root.firstConstruct? with
  | none => false
  | some first => (root.pathTo first.startByte).any isFaulty

end Node

/-- The usable tree of a parser's answer. -/
def ParserAnswer.tree? : ParserAnswer → Except ParseFailure Tree
  | complaint reason => .error (.complaint reason)
  | nothing => .error .noTree
  | parsed tree =>
      if tree.root.type = Node.errorType ∨ tree.root.opensWithError then .error .unreadableStart
      else .ok tree

/-- The usable tree of a text, with a record when there are errors in it. -/
def Language.parse (language : Language) (answer : ParserAnswer) :
    Logged (Except ParseError Tree) := do
  match answer.tree? with
  | .error failure => return .error ⟨language, failure⟩
  | .ok tree =>
      if tree.hasError then
        .write .debug ("Parsed " ++ language.name ++ " source with syntax errors")
      return .ok tree

theorem Language.value_parse (language : Language) (answer : ParserAnswer) :
    (language.parse answer).value = answer.tree?.mapError (ParseError.mk language) := by
  unfold parse
  cases answer.tree? with
  | error failure => rfl
  | ok tree => cases htree : tree.hasError <;> simp [htree] <;> rfl

end CursorScope
