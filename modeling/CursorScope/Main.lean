import CursorScope.CommandLine.Terminal
import CursorScope.Tree.Table

/-!
# The command line program

Reads the settings of the environment, the file that the command line names, and the syntax tree
of the text as a table on the standard input. Without a table the text has no tree.
-/

namespace CursorScope.CommandLine

/-- The path that the words of a command line name, if they can be read. -/
def namedPath? (words : List String) : Option String := do
  let opening ← (Opening.read words).toOption.join
  match ← (Command.read opening.command opening.words).toOption with
  | .extract request => request.source.path
  | .scopes request => request.source.path
  | .help => none

/-- The text of the file at a path, if there is one. -/
def readHere (path : String) : IO (Except FileError String) := do
  try
    return .ok (← IO.FS.readFile path)
  catch
    | .noFileOrDirectory .. => return .error .missing
    | e => throw e

/-- The answer that the table on the standard input stands for. -/
def readAnswer : IO ParserAnswer := do
  let table ← (← IO.getStdin).readToEnd
  if table.isEmpty then return .nothing
  match Node.ofTable? (Text.newlinePieces (Text.bareLine table)) with
  | some root => return .parsed ⟨root, root.sites [] |>.any (·.node.isFaulty)⟩
  | none => return .complaint "malformed table of nodes"

/-- Carries out a command line in the world. -/
def performHere (words : List String) : IO Report := do
  let maxLines ← IO.getEnv Environment.maxLinesVariable
  let logLevel ← IO.getEnv Environment.logLevelVariable
  let file ← match namedPath? words with
    | none => pure (.error .missing)
    | some path => readHere path
  return run ⟨⟨maxLines, logLevel⟩, fun _ => file, ← readAnswer⟩ words

end CursorScope.CommandLine

open CursorScope in
/-- Carries out the command line and prints its report. -/
def main (words : List String) : IO UInt32 := do
  let report ← CommandLine.performHere words
  IO.print report.written
  report.outputLines.forM (IO.println ·)
  report.noticeLines.forM (IO.eprintln ·)
  return report.outcome.exitCode.toUInt32
