/-!
# Markup in terminal texts

A terminal text may hold tags: a bracket, a lower case letter or one of three signs, anything but
an opening bracket, and a closing bracket. `escape` puts backslashes before what would be read as
a tag, so that the text shows as it stands.
-/

namespace CursorScope.Text

/-- The characters that may follow the bracket that opens a tag. -/
def opensTag (c : Char) : Bool :=
  'a' ≤ c && c ≤ 'z' || c == '#' || c == '/' || c == '@'

/-- The tag that stands at the start of a text, both brackets included. -/
def tagAtStart? : List Char → Option (List Char)
  | '[' :: c :: rest =>
      if opensTag c then
        let inner := rest.takeWhile fun d => d != ']' && d != '['
        if (rest.drop inner.length).head? = some ']' then some ('[' :: c :: inner ++ [']'])
        else none
      else none
  | _ => none

/-- The text with its tags escaped, after `slashes` backslashes that were met before it. The
backslashes before a tag are doubled, and one more is put in. -/
def escapeTags (slashes : Nat) : List Char → List Char
  | [] => List.replicate slashes '\\'
  | c :: rest =>
      if c = '\\' then escapeTags (slashes + 1) rest
      else
        let before :=
          if (tagAtStart? (c :: rest)).isSome then 2 * slashes + 1 else slashes
        List.replicate before '\\' ++ c :: escapeTags 0 rest

/-- The text ends in a single backslash. -/
def endsInOneBackslash (cs : List Char) : Bool :=
  match cs.reverse with
  | '\\' :: '\\' :: _ => false
  | '\\' :: _ => true
  | _ => false

/-- The text with everything escaped that would be read as markup. A single backslash at the end
is doubled, lest it escape what is put behind it. -/
def escapeMarkup (text : String) : String :=
  let escaped := escapeTags 0 text.toList
  .ofList (if endsInOneBackslash escaped then escaped ++ ['\\'] else escaped)

end CursorScope.Text
