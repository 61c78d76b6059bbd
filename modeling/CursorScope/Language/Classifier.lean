import CursorScope.Describe.Classification
import CursorScope.Describe.CNodes
import CursorScope.Describe.GoNodes
import CursorScope.Describe.PythonNodes
import CursorScope.Language.Basic

/-!
# Classifiers of languages

Each language has its classifier.
-/

namespace CursorScope

/-- The classifier of the trees of a language. -/
def Language.classifier : Language → Classifier
  | .c => CNodes.classifier
  | .go => GoNodes.classifier
  | .python => PythonNodes.classifier

end CursorScope
