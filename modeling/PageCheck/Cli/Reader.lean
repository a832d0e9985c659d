import PageCheck.Cli.Usage
import PageCheck.Text.Similar

/-!
# Reading command lines

Words that start with a dash name switches: one with its value behind an equals sign or in the next
word, or several of one letter together. All other words are left over. The words of the program
itself end at the first one that is left over.
-/

namespace PageCheck.Cli

structure Given where
  switch : Switch
  value : Option String
deriving DecidableEq, Repr

structure Arguments where
  given : List Given
  rest : List String
deriving DecidableEq, Repr

namespace Reader

/-- The switches in a word; the last one may still need a value from the next word. -/
structure Word where
  given : List Given
  open? : Option (String × Switch)

def find? (command : Command) (name : String) : Option Switch :=
  command.switches.find? fun s => s.names.contains name

def isLong (name : String) : Bool := name.startsWith "--"

def longNames (command : Command) : List String :=
  command.switches.flatMap fun s => s.names.filter isLong

def letters (command : Command) : List Char → Except UsageFault Word
  | [] => .ok ⟨[], none⟩
  | c :: rest =>
    let name := String.ofList ['-', c]
    match find? command name with
    | none => .error (.noSwitch name [])
    | some s =>
      if s.isFlag then
        (letters command rest).map fun word => { word with given := ⟨s, none⟩ :: word.given }
      else if rest.isEmpty then .ok ⟨[], some (name, s)⟩
      else .ok ⟨[⟨s, some (String.ofList rest)⟩], none⟩

/-- A switch with a long name, and the value behind the equals sign if there is one. -/
def long (command : Command) (name : String) (value : Option String) : Except UsageFault Word :=
  match find? command name with
  | none =>
    .error (.noSwitch name ((Text.closest name (longNames command)).mergeSort (decide <| · ≤ ·)))
  | some s =>
    match s.isFlag, value with
    | true, none => .ok ⟨[⟨s, none⟩], none⟩
    | true, some _ => .error (.needlessValue name)
    | false, some v => .ok ⟨[⟨s, some v⟩], none⟩
    | false, none => .ok ⟨[], some (name, s)⟩

def word (command : Command) (text : String) : Except UsageFault Word :=
  let s := text.toList
  if isLong text then
    let name := String.ofList (s.takeWhile (· != '='))
    long command name (if s.contains '=' then
      some (String.ofList ((s.dropWhile (· != '=')).drop 1)) else none)
  else letters command (s.drop 1)

def isSwitchWord (text : String) : Bool := text.startsWith "-" && 1 < text.length

def Arguments.before (given : List Given) (args : Arguments) : Arguments :=
  { args with given := given ++ args.given }

def read (command : Command) : List String → Except UsageFault Arguments
  | [] => .ok ⟨[], []⟩
  | text :: rest =>
    if text = "--" then .ok ⟨[], rest⟩
    else if isSwitchWord text then
      match word command text with
      | .error fault => .error fault
      | .ok ⟨given, none⟩ => (read command rest).map (Arguments.before given)
      | .ok ⟨given, some (name, s)⟩ =>
        match rest with
        | [] => .error (.missingValue name)
        | value :: rest =>
          (read command rest).map (Arguments.before (given ++ [⟨s, some value⟩]))
    else if command = .top then .ok ⟨[], text :: rest⟩
    else (read command rest).map fun args => { args with rest := text :: args.rest }

end Reader

namespace Arguments

/-- The value of a switch: the last one given. -/
def value? (args : Arguments) (key : Key) : Option String :=
  (args.given.reverse.find? (·.switch.key == key)).bind (·.value)

def has (args : Arguments) (key : Key) : Bool := args.given.any (·.switch.key == key)

/-- The switches of a command in the order in which they are dealt with: urgent ones first, and
given ones as they come before those that are not given. -/
def order (command : Command) (args : Arguments) : List Switch :=
  let given := (args.given.map (·.switch)).eraseDups
  let all := given ++ command.switches.filter fun s => !given.contains s
  all.filter (·.isUrgent) ++ all.filter (!·.isUrgent)

end Arguments

end PageCheck.Cli
