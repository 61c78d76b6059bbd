/-!
# Log records

What a computation reports beside its result. `Logged` carries the records in the order in which
they were written, and `Level` names how grave they are.
-/

namespace CursorScope

/-- How grave a record is. `notSet` admits everything. -/
inductive Level where
  | notSet
  | debug
  | info
  | warning
  | error
  | critical
  deriving DecidableEq, Repr

namespace Level

/-- The name of a level. -/
def name : Level → String
  | notSet => "NOTSET"
  | debug => "DEBUG"
  | info => "INFO"
  | warning => "WARNING"
  | error => "ERROR"
  | critical => "CRITICAL"

/-- All names that levels go by. -/
def aliases : List (String × Level) :=
  [("CRITICAL", critical), ("FATAL", critical), ("ERROR", error), ("WARN", warning),
    ("WARNING", warning), ("INFO", info), ("DEBUG", debug), ("NOTSET", notSet)]

/-- The level of a name in upper case. -/
def ofName? (name : String) : Option Level := aliases.lookup name

/-- How grave a level is. -/
def weight : Level → Nat
  | notSet => 0
  | debug => 10
  | info => 20
  | warning => 30
  | error => 40
  | critical => 50

end Level

/-- A message with its level. -/
structure Record where
  level : Level
  message : String
  deriving DecidableEq, Repr

/-- A value with the records written on the way to it. -/
structure Logged (α : Type) where
  records : List Record
  value : α

namespace Logged

/-- A value without records. -/
def quiet {α : Type} (value : α) : Logged α := ⟨[], value⟩

/-- One record. -/
def write (level : Level) (message : String) : Logged Unit := ⟨[⟨level, message⟩], ()⟩

/-- Records of later steps follow those of earlier ones. -/
def andThen {α β : Type} (first : Logged α) (next : α → Logged β) : Logged β :=
  let second := next first.value
  ⟨first.records ++ second.records, second.value⟩

instance : Monad Logged where
  pure := quiet
  bind := andThen

@[simp] theorem value_pure {α : Type} (a : α) : (pure a : Logged α).value = a := rfl

@[simp] theorem records_pure {α : Type} (a : α) : (pure a : Logged α).records = [] := rfl

@[simp] theorem value_bind {α β : Type} (x : Logged α) (f : α → Logged β) :
    (x >>= f).value = (f x.value).value := rfl

@[simp] theorem records_bind {α β : Type} (x : Logged α) (f : α → Logged β) :
    (x >>= f).records = x.records ++ (f x.value).records := rfl

theorem bind_eq {α β : Type} (x : Logged α) (f : α → Logged β) :
    x >>= f = ⟨x.records ++ (f x.value).records, (f x.value).value⟩ := rfl

end Logged

end CursorScope
