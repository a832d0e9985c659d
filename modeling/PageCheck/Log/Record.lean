/-!
# Log records

A record is a level and a finished message. Computations that log carry their records as a value;
running one after the other appends the records.
-/

namespace PageCheck.Log

/-- A level is a number; five of them have names of their own. -/
abbrev Level := Int

namespace Level

def debug : Level := 10
def info : Level := 20
def warning : Level := 30
def error : Level := 40
def critical : Level := 50

/-- The names of the levels, lowest first. The level zero is that of a log that sets none. -/
def named : List (String × Level) :=
  [("NOTSET", 0), ("DEBUG", debug), ("INFO", info), ("WARNING", warning), ("ERROR", error),
    ("CRITICAL", critical)]

/-- The name that stands in a log line; a level without a name shows its number. -/
def name (level : Level) : String :=
  match named.find? (·.2 == level) with
  | some (text, _) => text
  | none => "Level " ++ toString (level : Int)

/-- The names under which a level can be asked for. -/
def ofName? (text : String) : Option Level :=
  ((named ++ [("WARN", warning), ("FATAL", critical)]).find? (·.1 == text)).map (·.2)

end Level

structure Record where
  level : Level
  message : String
deriving DecidableEq, Repr

end PageCheck.Log

namespace PageCheck

open Log

/-- A value together with the records written while it was computed. -/
structure Logged (α : Type) where
  value : α
  records : List Record

namespace Logged

variable {α β : Type}

def ret (a : α) : Logged α := ⟨a, []⟩

def andThen (x : Logged α) (f : α → Logged β) : Logged β :=
  let y := f x.value
  ⟨y.value, x.records ++ y.records⟩

instance : Monad Logged where
  pure := ret
  bind := andThen

def write (level : Level) (message : String) : Logged Unit := ⟨(), [⟨level, message⟩]⟩

@[simp] theorem value_pure (a : α) : (pure a : Logged α).value = a := rfl
@[simp] theorem records_pure (a : α) : (pure a : Logged α).records = [] := rfl

@[simp] theorem value_bind (x : Logged α) (f : α → Logged β) :
    (x >>= f).value = (f x.value).value := rfl

@[simp] theorem records_bind (x : Logged α) (f : α → Logged β) :
    (x >>= f).records = x.records ++ (f x.value).records := rfl

end Logged

end PageCheck
