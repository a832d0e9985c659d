import PageCheck.Config.Field
import PageCheck.Files.Store
import PageCheck.Json.Writer
import PageCheck.Predicate.Reader

/-!
# Configurations

A configuration says which specifications to check and how to fetch their pages. It is made of a
mapping; all faults of its members are found at once. Only if there are none, the file with the
specifications has to exist.
-/

namespace PageCheck

structure Config where
  specFile : Option Path
  /-- How many seconds a request may take. -/
  timeout : Binary64
  userAgent : String
  /-- How many negations may stand inside each other. -/
  depth : Int
deriving Repr

namespace Config

def standard : Config := ⟨none, Binary64.ofInt 10, "SiteCheck/1.0", Predicate.defaultLimit⟩

structure Problem where
  /-- The key that is at fault; none if it is the mapping as a whole. -/
  key : Option String
  fault : Fault
deriving DecidableEq, Repr

inductive BuildError where
  | problems (problems : List Problem)
  /-- A key that is no text. -/
  | keys
  | specFile (error : FileError)

abbrev Members := List (Value × Value)

def isText : Value → Bool
  | .text _ => true
  | .brokenText _ => true
  | _ => false

def isBroken : Value → Bool
  | .brokenText _ => true
  | _ => false

def isKey (name : String) : Value → Bool
  | .text s => s == name
  | _ => false

/-- The value of a key; the last one if it is repeated. -/
def member? (members : Members) (name : String) : Option Value :=
  (members.reverse.find? fun m => isKey name m.1).map (·.2)

/-- Read a member, or take what stands for a missing one. -/
def field {α : Type} (members : Members) (name : String) (usual : α)
    (read : Value → Except Fault α) : Except Problem α :=
  match member? members name with
  | some v => (read v).mapError fun fault => ⟨some name, fault⟩
  | none => .ok usual

def problem? {α : Type} : Except Problem α → Option Problem
  | .ok _ => none
  | .error p => some p

def specFileField (members : Members) : Except Problem (Option Given) :=
  field members "spec_file" (standard.specFile.map .path) readPath

def timeoutField (members : Members) : Except Problem Binary64 :=
  field members "timeout" standard.timeout readTimeout

def userAgentField (members : Members) : Except Problem String :=
  field members "user_agent" standard.userAgent readText

def depthField (members : Members) : Except Problem Int :=
  field members "max_nesting_depth" standard.depth readDepth

def keys : List String := ["spec_file", "timeout", "user_agent", "max_nesting_depth"]

def unknownKeys (members : Members) : List Problem :=
  members.filterMap fun (key, _) =>
    match key with
    | .text s => if s ∈ keys then none else some ⟨some s, .unknownKey⟩
    | _ => none

/-- All problems, those of the fields first. -/
def problems (members : Members) : List Problem :=
  [problem? (specFileField members), problem? (timeoutField members),
    problem? (userAgentField members), problem? (depthField members)].filterMap id ++
    unknownKeys members

/-- A configuration before it is known that its file with the specifications is there. -/
structure Draft where
  specFile : Option Given
  timeout : Binary64
  userAgent : String
  depth : Int

def Draft.config (d : Draft) : Config :=
  ⟨d.specFile.bind Given.path?, d.timeout, d.userAgent, d.depth⟩

def fields (members : Members) : Except Problem Draft := do
  let specFile ← specFileField members
  let timeout ← timeoutField members
  let userAgent ← userAgentField members
  let depth ← depthField members
  return ⟨specFile, timeout, userAgent, depth⟩

def Given.isFile (files : Files) : Given → Bool
  | path p => files.isFile p
  | broken _ => false

def missingFile? (files : Files) (draft : Draft) : Option FileError :=
  draft.specFile.bind fun given =>
    if given.isFile files then none else some ⟨.missing, given.codes⟩

/-- Make a configuration. A key with a half in it keeps the other keys from being looked at. -/
def build (files : Files) (members : Members) : Except BuildError Config :=
  if !members.all (isText ·.1) then .error .keys
  else if members.any (isBroken ·.1) then .error (.problems [⟨none, .brokenText⟩])
  else
    match problems members, fields members with
    | [], .ok draft =>
      match missingFile? files draft with
      | some e => .error (.specFile e)
      | none => .ok draft.config
    | list, _ => .error (.problems list)

namespace Problem

def text (p : Problem) : String :=
  (p.key.map (· ++ "\n")).getD "" ++ "  " ++ p.fault.message ++ " [type=" ++ p.fault.name ++ "]"

end Problem

namespace BuildError

def message : BuildError → String
  | problems list =>
    toString list.length ++ " validation error" ++ (if list.length = 1 then "" else "s") ++
      " for CheckerConfig\n" ++ "\n".intercalate (list.map Problem.text)
  | keys => "keywords must be strings"
  | specFile e => e.message

end BuildError

def toValue (config : Config) : Value :=
  .map [(.text "spec_file", (config.specFile.map fun p => Value.text p.text).getD .null),
    (.text "timeout", .real config.timeout), (.text "user_agent", .text config.userAgent),
    (.text "max_nesting_depth", .int config.depth)]

def print (config : Config) : String := Json.pretty config.toValue

end Config

end PageCheck
