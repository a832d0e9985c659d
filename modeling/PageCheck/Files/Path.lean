import PageCheck.Text.Case
import PageCheck.Text.Code
import PageCheck.Text.Split

/-!
# Paths

A path names a place from a folder on: from the current one, or from a root. Repeated slashes and
single points say nothing and are left out; a double point is kept, because what it means depends
on the files.
-/

namespace PageCheck

structure Path where
  /-- The text of the folder that the names start from; it is empty for the current one. -/
  root : String
  names : List String
deriving DecidableEq, Repr

namespace Path

/-- The names in a text: what stands between slashes and says something. -/
def namesOf (s : List Char) : List String :=
  (Text.splitAt '/' s).filterMap fun name =>
    if name.isEmpty || name == ['.'] then none else some (String.ofList name)

/-- Exactly two slashes at the start are a root of their own. -/
def rootOf (s : List Char) : String :=
  match (s.takeWhile (· == '/')).length with
  | 0 => ""
  | 2 => "//"
  | _ => "/"

def ofText (s : String) : Path := ⟨rootOf s.toList, namesOf s.toList⟩

/-- The codes of a path without what says nothing, where not all codes are characters. -/
def shortest (s : Text.Codes) : Text.Codes :=
  let names := (Text.splitAt (.char '/') s).filter fun name => !(name.isEmpty || name == [.char '.'])
  .ofString (rootOf (s.map Text.Code.shown)) ++ [.char '/'].intercalate names

def isRelative (p : Path) : Bool := p.root == ""

def joined (names : List String) : String := "/".intercalate names

/-- The text of a path. The current folder itself is written as a point. -/
def text (p : Path) : String :=
  if p.names.isEmpty then (if p.isRelative then "." else p.root)
  else if p.isRelative || p.root.endsWith "/" then p.root ++ joined p.names
  else p.root ++ "/" ++ joined p.names

def parent (p : Path) : Path := ⟨p.root, p.names.dropLast⟩

def join (p : Path) (names : List String) : Path := ⟨p.root, p.names ++ names⟩

def name (p : Path) : String := p.names.getLast?.getD ""

/-- The end of a name from its last point on. A point at either end of the name does not count. -/
def suffixOf (name : List Char) : List Char :=
  let ending := (name.reverse.takeWhile (· != '.')).reverse
  if ending.isEmpty || name.length ≤ ending.length + 1 then [] else '.' :: ending

def suffix (p : Path) : String := String.ofList (suffixOf p.name.toList)

/-- Take back the last name at every double point. -/
def flatten (names : List String) : List String :=
  names.foldl (fun done name => if name = ".." then done.dropLast else done ++ [name]) []

def resolve (p current : Path) : Path :=
  if p.isRelative then ⟨current.root, flatten (current.names ++ p.names)⟩
  else ⟨p.root, flatten p.names⟩

def startsAtHome (p : Path) : Bool :=
  p.isRelative && (p.names.head?.any fun name => name.startsWith "~")

end Path

/-- The home folders that a leading tilde stands for: that of the running user, and those of users
by their names. -/
structure Homes where
  own : Path
  others : List (String × Path)
deriving DecidableEq, Repr

/-- The home of a user; no name is the running user. A home that starts with a tilde itself leads
nowhere. -/
def Homes.of? (homes : Homes) (user : String) : Option Path :=
  let home? := if user = "" then some homes.own else (homes.others.find? (·.1 == user)).map (·.2)
  home?.filter fun home => !home.startsAtHome

namespace Path

/-- Put a home folder in the place of a leading tilde and the name of a user behind it. -/
def expand? (p : Path) (homes : Homes) : Option Path :=
  if p.startsAtHome then
    match p.names with
    | name :: rest =>
      (homes.of? (String.ofList (name.toList.drop 1))).map fun home => home.join rest
    | [] => none
  else some p

end Path

end PageCheck
