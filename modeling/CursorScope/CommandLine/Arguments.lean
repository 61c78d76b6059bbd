import CursorScope.CommandLine.UsageError
import CursorScope.Text.Similarity

/-!
# Options and operands

The words of a command line are options, their values, and operands. An option is given by its
long name, with its value in the same word after an equals sign or in the next word, or by its
short name, with its value in the rest of the word or in the next word; flags may share a word.
After two dashes every word is an operand. The last value of an option counts.
-/

namespace CursorScope

/-- What follows an option. -/
inductive ValueForm where
  | flag
  | text
  | natural
  | integer
  deriving DecidableEq, Repr

/-- An option that a command knows, by its long name and perhaps a letter. -/
structure OptionSpec where
  long : String
  short : Option Char
  form : ValueForm
  required : Bool
  deriving DecidableEq, Repr

namespace OptionSpec

/-- The long name as it is typed. -/
def longName (spec : OptionSpec) : String := "--" ++ spec.long

/-- The names of an option in messages. -/
def label (spec : OptionSpec) : String :=
  Text.quoted spec.longName ++
    match spec.short with
    | none => ""
    | some letter => " / " ++ Text.quoted ("-" ++ letter.toString)

/-- The option takes a value. -/
def takesValue (spec : OptionSpec) : Bool := spec.form != .flag

end OptionSpec

/-- A given option, with an empty value for a flag. -/
structure Given where
  spec : OptionSpec
  value : String
  deriving DecidableEq, Repr

/-- The given options of a command line in their order, and the operands. -/
structure Arguments where
  given : List Given
  operands : List String
  deriving DecidableEq, Repr

namespace Arguments

/-- No options, and operands alone. -/
def ofOperands (operands : List String) : Arguments := ⟨[], operands⟩

/-- The arguments with one more option in front. -/
def withOption (given : Given) (rest : Arguments) : Arguments :=
  { rest with given := given :: rest.given }

/-- The arguments with one more operand in front. -/
def withOperand (rest : Arguments) (operand : String) : Arguments :=
  { rest with operands := operand :: rest.operands }

end Arguments

/-- A long option in a word: its name, and its value if there is one in the word. -/
def splitLongOption (word : List Char) : String × Option String :=
  let name := word.takeWhile (· != '=')
  let value := if name.length < word.length then
    some (String.ofList (word.drop (name.length + 1))) else none
  (.ofList name, value)

/-- The option of a long name as it is typed. -/
def longOption (specs : List OptionSpec) (name : String) : Except UsageError OptionSpec :=
  match specs.find? (·.longName == name) with
  | some spec => .ok spec
  | none => .error (.noSuchOption name (Text.closest 3 name (specs.map (·.longName))))

/-- The options of the letters of a word, and the option that still needs a value from the next
word. -/
def readLetters (specs : List OptionSpec) :
    List Char → Except UsageError (List Given × Option (String × OptionSpec))
  | [] => .ok ([], none)
  | letter :: rest => do
      let name := "-" ++ letter.toString
      match specs.find? (·.short == some letter) with
      | none => .error (.noSuchOption name [])
      | some spec =>
          if spec.takesValue then
            if rest.isEmpty then return ([], some (name, spec))
            else return ([⟨spec, .ofList rest⟩], none)
          else
            let (given, open?) ← readLetters specs rest
            return (⟨spec, ""⟩ :: given, open?)

/-- The options of one word, and the option that still needs a value from the next word. -/
def readOptionWord (specs : List OptionSpec) (word : List Char) :
    Except UsageError (List Given × Option (String × OptionSpec)) :=
  if ['-', '-'].isPrefixOf word then do
    let (name, value) := splitLongOption word
    let spec ← longOption specs name
    match spec.takesValue, value with
    | true, some value => return ([⟨spec, value⟩], none)
    | true, none => return ([], some (name, spec))
    | false, some _ => .error (.needlessValue name)
    | false, none => return ([⟨spec, ""⟩], none)
  else readLetters specs word.tail

/-- A word that is an option: a dash and something behind it. -/
def isOptionWord (word : List Char) : Bool := word.head? == some '-' && word.length > 1

/-- The options and operands of words. With `mixed`, options may follow operands; otherwise the
first operand ends the options. -/
def readWords (specs : List OptionSpec) (mixed : Bool) : List String → Except UsageError Arguments
  | [] => .ok (.ofOperands [])
  | word :: rest =>
      if word = "--" then .ok (.ofOperands rest)
      else if isOptionWord word.toList then do
        match ← readOptionWord specs word.toList with
        | (given, none) =>
            let others ← readWords specs mixed rest
            return given.foldr Arguments.withOption others
        | (given, some (name, spec)) =>
            match rest with
            | [] => .error (.noValue name)
            | value :: rest =>
                let others ← readWords specs mixed rest
                return (given ++ [Given.mk spec value]).foldr Arguments.withOption others
      else if mixed then do
        return (← readWords specs mixed rest).withOperand word
      else .ok (.ofOperands (word :: rest))

namespace Arguments

/-- The last value of an option. -/
def value? (arguments : Arguments) (spec : OptionSpec) : Option String :=
  ((arguments.given.filter (·.spec == spec)).getLast?).map (·.value)

/-- The flag is given. -/
def has (arguments : Arguments) (spec : OptionSpec) : Bool := (arguments.value? spec).isSome

/-- The natural number of an option. -/
def natural? (arguments : Arguments) (spec : OptionSpec) : Except UsageError (Option Nat) :=
  match arguments.value? spec with
  | none => .ok none
  | some text => some <$> (Number.readNatural text).mapError (.badNumber spec.label)

/-- The integer of an option. -/
def integer? (arguments : Arguments) (spec : OptionSpec) : Except UsageError (Option Int) :=
  match arguments.value? spec with
  | none => .ok none
  | some text => some <$> (Number.readInteger text).mapError (.badNumber spec.label)

/-- The natural number of an option that has to be given. -/
def natural (arguments : Arguments) (spec : OptionSpec) : Except UsageError Nat := do
  match ← arguments.natural? spec with
  | some n => return n
  | none => .error (.missingOption spec.label)

/-- The value of an option has its form. -/
def checkForm (arguments : Arguments) (spec : OptionSpec) : Except UsageError Unit :=
  match spec.form with
  | .flag | .text => .ok ()
  | .natural => (fun _ => ()) <$> arguments.natural? spec
  | .integer => (fun _ => ()) <$> arguments.integer? spec

/-- The values of the given options have their forms, in the order in which the options are first
given; then every required option is given; then no operands are left beyond `limit`. -/
def check (arguments : Arguments) (specs : List OptionSpec) (limit : Nat) :
    Except UsageError Unit := do
  (arguments.given.map (·.spec)).forM arguments.checkForm
  match specs.find? fun spec => spec.required && !arguments.has spec with
  | some spec => .error (.missingOption spec.label)
  | none => pure ()
  match arguments.operands.drop limit with
  | [] => return ()
  | extra => .error (.extraArguments extra)

end Arguments

end CursorScope
