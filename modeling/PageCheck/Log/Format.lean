import PageCheck.Log.Pattern
import PageCheck.Log.Record
import PageCheck.Log.Stamp
import PageCheck.Text.Case
import PageCheck.Text.Word

/-!
# Formats of log lines

A format is a pattern with the fields of a record. It has to have at least one directive with a
name; an empty one stands for the message alone.
-/

namespace PageCheck.Log

open Text (Code Codes)

def logName : String := "SiteCheck"

def skipExtent (s : Codes) : Codes :=
  match s with
  | '*' :: rest => rest
  | _ => s.dropWhile (Code.is Text.isDecimal)

def isLetter (c : Char) : Bool := "diouxefgcrsa%".toList.any (Text.isFormOf · c)

def endsDirective (s : Codes) : Bool :=
  let s := skipExtent (s.dropWhile (Code.is ("#0+ -".toList.contains ·)))
  let s := match s with
    | '.' :: rest => if (skipExtent rest).length < rest.length then skipExtent rest else s
    | _ => s
  s.head?.any (Code.is isLetter)

def startsNamed (s : Codes) : Bool :=
  match s with
  | '%' :: '(' :: rest =>
    match rest.span (Code.is Text.isWordChar) with
    | (name, ')' :: rest) => !name.isEmpty && endsDirective rest
    | _ => false
  | _ => false

def hasNamed : Codes → Bool
  | [] => false
  | c :: rest => startsNamed (c :: rest) || hasNamed rest

/-- What a format is applied to: a record whose message is made of a pattern and of what stands for its
values. -/
structure Event where
  level : Level
  message : Codes
  pattern : Codes
  arguments : Item

/-- A record whose message was made without values. -/
def Record.event (r : Record) : Event := ⟨r.level, r.message, r.message, .thing (some "()")⟩

structure Format where
  text : Codes
deriving DecidableEq, Repr

namespace Format

/-- The text of the usual format. -/
def usual : String := "%(asctime)s | %(levelname)-8s | %(name)s | %(message)s"

def standard : Format := ⟨usual⟩

def bare : Format := ⟨"%(message)s"⟩

def read? (text : Codes) : Option Format :=
  if text.isEmpty then some bare
  else if hasNamed text then some ⟨text⟩
  else none

def invalid (text : Codes) : String := "Invalid format '" ++ text.shown ++ "' for '%' style"

/-- Whether the time is named in the text of a format. -/
def namesTime : Codes → Bool
  | [] => false
  | c :: rest => (Codes.ofString "%(asctime)").isPrefixOf (c :: rest) || namesTime rest

def fields (format : Format) (stamp : Stamp) (e : Event) : List (String × Item) :=
  let text (s : String) : Item := .value (.text s)
  let number (n : Int) : Item := .value (.int n)
  let real (x : Binary64) : Item := .value (.real x)
  [("name", text logName), ("msg", .value (.ofText e.pattern)), ("args", e.arguments),
    ("levelname", text (Level.name e.level)), ("levelno", number e.level),
    ("pathname", text stamp.path), ("filename", text stamp.file), ("module", text stamp.module),
    ("exc_info", .value .null), ("exc_text", .value .null), ("stack_info", .value .null),
    ("lineno", number stamp.line), ("funcName", text stamp.function),
    ("created", real stamp.created), ("msecs", real stamp.milliseconds),
    ("relativeCreated", real stamp.age), ("thread", number stamp.thread),
    ("threadName", text stamp.threadName), ("processName", text stamp.processName),
    ("process", number stamp.process), ("message", .value (.ofText e.message))] ++
    if namesTime format.text then [("asctime", text stamp.time)] else []

/-- How fields are shown all at once. -/
def outline? (fields : List (String × Item)) : Option String :=
  let entry? (field : String × Item) : Option String :=
    field.2.outline?.map fun s => Text.quoted field.1 ++ ": " ++ s
  (fields.mapM entry?).map fun entries => "\x7b" ++ ", ".intercalate entries ++ "\x7d"

/-- The line of a record without its end, if the format fits. -/
def line? (format : Format) (stamp : Stamp) (e : Event) : Option Codes :=
  let fields := format.fields stamp e
  let named := fields.map fun (name, x) => (Codes.ofString name, x)
  Pattern.apply (.mapping named (some (.thing (outline? fields)))) format.text

end Format

/-- The values of a message as they are kept. A mapping by itself stands for its members. -/
def argumentsOf : List Value → Item
  | [.map (entry :: entries)] => .value (.map (entry :: entries))
  | values => .thing (if values.any Value.hasLong then none
      else some (match values with
        | [v] => "(" ++ v.outline ++ ",)"
        | _ => "(" ++ ", ".intercalate (values.map Value.outline) ++ ")"))

/-- The message that a pattern makes with values; without values it is the message itself. -/
def message? (pattern : Codes) (values : List Value) : Option Codes :=
  match values with
  | [] => some pattern
  | [.map (entry :: entries)] =>
    let named := (entry :: entries).filterMap fun (key, v) =>
      key.codes?.map fun name => (name, Item.value v)
    Pattern.apply (.mapping named (some (.value (.map (entry :: entries))))) pattern
  | _ => Pattern.apply (.list (values.map .value)) pattern

end PageCheck.Log
