import CursorScope.Text.Quoted

/-!
# Values written as JSON

A value is written over several lines with two spaces of indentation a level. The members of an
object keep their order. Inside texts only quotes, backslashes and control characters are escaped.
-/

namespace CursorScope

/-- A value that can be written as JSON. -/
inductive JsonValue where
  | number (n : Nat)
  | text (s : String)
  | boolean (b : Bool)
  | array (items : List JsonValue)
  | object (members : List (String × JsonValue))

namespace JsonValue

/-- The written form of a character inside a text. -/
def characterForm (c : Char) : List Char :=
  if c = Text.doubleQuote || c = '\\' then ['\\', c]
  else if c.toNat = 0x8 then ['\\', 'b']
  else if c.toNat = 0x9 then ['\\', 't']
  else if c.toNat = 0xA then ['\\', 'n']
  else if c.toNat = 0xC then ['\\', 'f']
  else if c.toNat = 0xD then ['\\', 'r']
  else if c.toNat < 0x20 then '\\' :: 'u' :: Text.hexDigits 4 c.toNat
  else [c]

/-- The written form of a text, between double quotes. -/
def quote (s : String) : String :=
  .ofList (Text.doubleQuote :: s.toList.flatMap characterForm ++ [Text.doubleQuote])

/-- A new line at a depth of nesting. -/
def newLine (depth : Nat) : String := "\n" ++ .ofList (List.replicate (2 * depth) ' ')

/-- Items between two brackets, each on a line of its own, one level deeper than the brackets. -/
def bracketed (opening closing : String) (depth : Nat) (items : List String) : String :=
  if items.isEmpty then opening ++ closing
  else
    let start := newLine (depth + 1)
    opening ++ start ++ ("," ++ start).intercalate items ++ newLine depth ++ closing

mutual

/-- The written form of a value at a depth of nesting. -/
def render (depth : Nat) : JsonValue → String
  | number n => toString n
  | text s => quote s
  | boolean b => if b then "true" else "false"
  | array items => bracketed "[" "]" depth (renderItems (depth + 1) items)
  | object members => bracketed "\x7b" "\x7d" depth (renderMembers (depth + 1) members)

/-- The written forms of the items of an array. -/
def renderItems (depth : Nat) : List JsonValue → List String
  | [] => []
  | item :: rest => item.render depth :: renderItems depth rest

/-- The written forms of the members of an object. -/
def renderMembers (depth : Nat) : List (String × JsonValue) → List String
  | [] => []
  | (key, value) :: rest => (quote key ++ ": " ++ value.render depth) :: renderMembers depth rest

end

end JsonValue

end CursorScope
