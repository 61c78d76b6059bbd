import CursorScope.Describe.Basic

/-!
# Descriptions of calls and case labels

A call is named by its callee, with the parentheses around the callee removed. A closure that is
called on the spot gives its keyword, so that its body does not show; any other callee gives its
text on one line, shortened to `calleeWidth` characters. A case label is described by its text up
to and with its colon.
-/

namespace CursorScope

/-- The greatest width of the name of a callee. -/
def calleeWidth : Nat := 60

/-- The node inside all parentheses that hold exactly one named node. -/
def Node.withoutParentheses (node : Node) : Node :=
  if node.type = "parenthesized_expression" then
    match _h : node.namedChildren with
    | [inner] => inner.withoutParentheses
    | _ => node
  else node
termination_by sizeOf node
decreasing_by
  exact Node.sizeOf_lt_of_mem_children (Node.mem_children_of_mem_namedChildren (by simp [_h]))

/-- Parentheses around one named node are looked through. -/
theorem Node.withoutParentheses_of_singleton {node inner : Node}
    (htype : node.type = "parenthesized_expression") (h : node.namedChildren = [inner]) :
    node.withoutParentheses = inner.withoutParentheses := by
  rw [Node.withoutParentheses, if_pos htype]
  split <;> simp_all

/-- Any other node stays as it is. -/
theorem Node.withoutParentheses_of_ne {node : Node}
    (h : node.type ≠ "parenthesized_expression" ∨ node.namedChildren.length ≠ 1) :
    node.withoutParentheses = node := by
  rw [Node.withoutParentheses]
  split
  · split
    · simp_all
    · rfl
  · rfl

/-- The function that a call applies, without the parentheses around it. -/
def Node.callee? (call : Node) : Option Node :=
  (call.child? "function").map Node.withoutParentheses

/-- The text itself if it is at most `calleeWidth` characters wide, and else its beginning before
three dots. -/
def shortened (text : String) : String :=
  if text.length ≤ calleeWidth then text
  else Text.trimEnd (Text.sliceTo text (calleeWidth - 3)) ++ "..."

namespace Classifier

/-- The name of a callee: the keyword of a closure, or the shortened text of any other node. -/
def calleeName (classifier : Classifier) (callee : Node) (doc : Document) :
    Except RangeError String :=
  if classifier.kindOf callee.type = .closure then do
    let description ← classifier.describeClosure callee doc
    return description.signature.keyword
  else do
    return shortened (Text.collapse (← callee.text doc))

/-- The description of a call. -/
def describeCall (classifier : Classifier) (call : Node) (doc : Document) :
    Except RangeError Description := do
  let name ← match call.callee? with
    | none => pure ""
    | some callee => classifier.calleeName callee doc
  return ⟨{ keyword := "function call", name }, "function call"⟩

end Classifier

/-- The text of a case label through its colon, or all of its text when it has no colon. -/
def Node.headerThroughColon (label : Node) (doc : Document) : Except RangeError String :=
  match label.children.find? (·.type == ":") with
  | none => label.text doc
  | some colon => do return (← label.textBefore colon doc) ++ ":"

/-- The description of a case label. -/
def describeCase (label : Node) (doc : Document) : Except RangeError Description := do
  return ⟨{ keyword := ← label.headerThroughColon doc }, "switch"⟩

end CursorScope
