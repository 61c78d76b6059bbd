import CursorScope.Text.Blank

/-!
# Signatures

A signature is assembled from five parts and written on one line as
`<modifiers> <keyword> <name><detail>: <supertypes>`. Empty parts are left out together with their
separators, and every run of blanks becomes a single space.
-/

namespace CursorScope

/-- The parts of a signature. -/
structure Signature where
  modifiers : String := ""
  keyword : String := ""
  name : String := ""
  detail : String := ""
  supertypes : String := ""
  deriving DecidableEq, Repr

namespace Signature

/-- The parts before the detail, joined by single spaces. -/
def head (s : Signature) : String :=
  " ".intercalate ([s.modifiers, s.keyword, s.name].filter (!·.isEmpty))

/-- The parts of a signature put together, with the blanks they bring. -/
def raw (s : Signature) : String :=
  let text := s.head ++ s.detail
  if s.supertypes.isEmpty then text else text ++ ": " ++ s.supertypes

/-- The line that a signature is written on. -/
def render (s : Signature) : String := Text.collapse s.raw

end Signature

end CursorScope
