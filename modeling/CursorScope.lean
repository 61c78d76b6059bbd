import CursorScope.Main
import CursorScope.Proofs.Chain
import CursorScope.Proofs.Descent
import CursorScope.Proofs.Extent
import CursorScope.Proofs.Shape
import CursorScope.Proofs.Enclosing
import CursorScope.Proofs.Agree
import CursorScope.Proofs.Alike
import CursorScope.Proofs.Describe.PythonNodes
import CursorScope.Proofs.Describe.GoNodes
import CursorScope.Proofs.Describe.CNodes
import CursorScope.Proofs.Describe.Classification
import CursorScope.Proofs.Imports
import CursorScope.Proofs.Layout
import CursorScope.Proofs.Safety
import CursorScope.Proofs.Shift
import CursorScope.Proofs.LargerBudgets
import CursorScope.Proofs.Locality
import CursorScope.Proofs.Lines
import CursorScope.Proofs.Focus
import CursorScope.Proofs.Cut
import CursorScope.Proofs.Code
import CursorScope.Proofs.Fitting
import CursorScope.Proofs.Fidelity
import CursorScope.Proofs.Visible
import CursorScope.Proofs.Returns
import CursorScope.Proofs.LineEndings
import CursorScope.Proofs.ByteMoves
import CursorScope.Proofs.CarriageReturns
import CursorScope.Proofs.Window
import CursorScope.Proofs.Points
import CursorScope.Proofs.Columns
import CursorScope.Proofs.Slices
import CursorScope.Proofs.Headers
import CursorScope.Proofs.Describe.Declarators
import CursorScope.Proofs.SingleLine
import CursorScope.Proofs.WholeFile
import CursorScope.Proofs.TargetPath
import CursorScope.Proofs.Statements
import CursorScope.Proofs.Opening
import CursorScope.Proofs.SharedArena
import CursorScope.Proofs.Describe.GoSpecs
import CursorScope.Proofs.LineBreaks
import CursorScope.Proofs.Encoding
import CursorScope.Proofs.RawDocuments
import CursorScope.Proofs.Clamp
import CursorScope.Proofs.Words
import CursorScope.Proofs.Rendering
import CursorScope.Proofs.Describe.Calls
import CursorScope.Proofs.Describe.Cases
import CursorScope.Proofs.Budgets
import CursorScope.Proofs.Requests
