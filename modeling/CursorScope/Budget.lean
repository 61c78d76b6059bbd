import CursorScope.Log
import CursorScope.Text.Case
import CursorScope.Text.Integer
import CursorScope.Text.Quoted

/-!
# Line budgets and the environment

A budget is a positive number of lines. A number below one that is asked for becomes one, with a
warning. The environment may set the budget and the log level; a budget that is no integer is
ignored, with a warning too.
-/

namespace CursorScope

/-- A positive number of lines. -/
structure Budget where
  lines : Nat
  one_le_lines : 1 ≤ lines
  deriving DecidableEq

namespace Budget

/-- The least budget, or as many lines as an integer says. -/
def ofInt (n : Int) : Budget := ⟨max 1 n.toNat, Nat.le_max_left _ _⟩

/-- The budget where none is asked for. -/
def default : Budget := ⟨60, by decide⟩

/-- The budget that is asked for by an integer. -/
def requested (n : Int) : Logged Budget := do
  if n < 1 then
    .write .warning s!"Line budget {n} is below 1, using 1"
  return .ofInt n

theorem value_requested (n : Int) : (requested n).value = ofInt n := by
  unfold requested
  split <;> rfl

end Budget

/-- The settings that come from outside, each present only if it is set. -/
structure Environment where
  maxLines : Option String
  logLevel : Option String

namespace Environment

/-- The variable that sets the line budget. -/
def maxLinesVariable : String := "CODEX_FOCUS_MAX_LINES"

/-- The variable that sets the log level. -/
def logLevelVariable : String := "CODEX_FOCUS_LOG_LEVEL"

/-- The environment without settings. -/
def empty : Environment := ⟨none, none⟩

/-- The line budget of the environment. An empty setting counts as none. -/
def budget (env : Environment) : Logged Budget :=
  match env.maxLines.filter (!·.isEmpty) with
  | none => pure .default
  | some text =>
      match Text.readInteger? text with
      | some n => Budget.requested n
      | none => do
          .write .warning
            ("Ignoring non-integer " ++ maxLinesVariable ++ "=" ++ Text.quoted text)
          return .default

/-- The name of the log level, in upper case. -/
def levelName (env : Environment) : String :=
  Text.toUpper (env.logLevel.getD Level.warning.name)

/-- An integer in the environment asks for a budget as a request does. -/
theorem budget_of_readInteger? {env : Environment} {text : String} {n : Int}
    (h : env.maxLines = some text) (hn : Text.readInteger? text = some n) :
    env.budget = Budget.requested n := by
  have hne : text.isEmpty = false := by
    rw [Bool.eq_false_iff]
    intro hempty
    rw [String.isEmpty_iff.1 hempty] at hn
    cases hn
  have hset : env.maxLines.filter (!·.isEmpty) = some text := by
    rw [h, Option.filter_some, hne]
    rfl
  unfold budget
  rw [hset]
  simp only [hn]

end Environment

end CursorScope
