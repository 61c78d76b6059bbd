import CursorScope.CommandLine.Run

/-!
# Reports as lines

The lines in which a report is printed: pieces of output without drawing or colours, and the
records that are grave enough for the level of the run.
-/

namespace CursorScope

/-- The lines of a piece of output. A table has a line for its head and for every row, and code
has a number before every line. -/
def Display.lines : Display → List String
  | .text content _ => [content]
  | .table columns rows => (columns :: rows).map ("\t".intercalate ·)
  | .code content _ startLine lineNumbers =>
      (Text.newlinePieces content).zipIdx startLine |>.map fun (line, number) =>
        if lineNumbers then s!"{number}\t" ++ line else line

namespace Report

/-- What a report shows on the output. -/
def outputLines (report : Report) : List String := report.shown.flatMap Display.lines

/-- What a report says beside its output: the records of its level and above, then the reason of
a failure. -/
def noticeLines (report : Report) : List String :=
  let grave := report.records.filter fun r => report.level.weight ≤ r.level.weight
  grave.map (fun r => r.level.name ++ " " ++ r.message) ++ report.outcome.message?.toList

end Report

end CursorScope
