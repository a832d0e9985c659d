import PageCheck.Files.Path
import PageCheck.Text.Lines
import PageCheck.Text.Quoted
import PageCheck.Text.Utf8

/-!
# A store of files

The files below the current folder, as a value: each place below that folder is missing, a folder or
a file with its bytes. Nothing else is there: a path that leads out of the current folder finds no
file, and the name of a file is a text of whole characters. A path is followed name by name, so a
double point needs the folder before it to exist.
-/

namespace PageCheck

inductive Entry where
  | folder
  | file (octets : List UInt8)
deriving DecidableEq, Repr

inductive FileFault where
  | missing
  | present
  | notFolder
  | isFolder
deriving DecidableEq, Repr

namespace FileFault

def describe : FileFault → Nat × String
  | missing => (2, "No such file or directory")
  | present => (17, "File exists")
  | notFolder => (20, "Not a directory")
  | isFolder => (21, "Is a directory")

end FileFault

structure FileError where
  fault : FileFault
  path : Text.Codes
deriving DecidableEq, Repr

def FileError.message (e : FileError) : String :=
  "[Errno " ++ toString e.fault.describe.1 ++ "] " ++ e.fault.describe.2 ++ ": " ++
    String.ofList (Text.quotedCodes e.path)

/-- The files at hand, by their names below the current folder. -/
structure Files where
  current : Path
  home : Homes
  entries : List (List String × Entry)
deriving DecidableEq, Repr

namespace Files

def at? (files : Files) (place : List String) : Option Entry :=
  if place.isEmpty then some .folder
  else (files.entries.find? (·.1 == place)).map (·.2)

def allNames (p : Path) : List String := Path.namesOf p.root.toList ++ p.names

/-- The names of a path below the current folder. -/
def below? (files : Files) (p : Path) : Option (List String) :=
  if p.isRelative then some p.names
  else
    let base := allNames files.current
    if base.isPrefixOf (allNames p) then some ((allNames p).drop base.length) else none

/-- Follow names from a place that is a folder or not there. -/
def follow (files : Files) (place : List String) : List String → Except FileFault (List String)
  | [] => .ok place
  | name :: rest =>
    match files.at? place with
    | none => .error .missing
    | some (.file _) => .error .notFolder
    | some .folder =>
      if name = ".." then
        if place.isEmpty then .error .missing else files.follow place.dropLast rest
      else files.follow (place ++ [name]) rest

/-- The place that a path leads to; its last name may be missing there. -/
def place (files : Files) (p : Path) : Except FileFault (List String) :=
  match files.below? p with
  | some names => files.follow [] names
  | none => .error .missing

def entry? (files : Files) (p : Path) : Option Entry :=
  match files.place p with
  | .ok place => files.at? place
  | .error _ => none

def isFile (files : Files) (p : Path) : Bool :=
  match files.entry? p with
  | some (.file _) => true
  | _ => false

def isFolder (files : Files) (p : Path) : Bool := files.entry? p == some .folder

def put (files : Files) (place : List String) (entry : Entry) : Files :=
  { files with entries := files.entries.filter (·.1 != place) ++ [(place, entry)] }

def bytes (files : Files) (p : Path) : Except FileFault (List UInt8) := do
  match files.at? (← files.place p) with
  | none => .error .missing
  | some .folder => .error .isFolder
  | some (.file octets) => .ok octets

/-- The text of bytes: decoded, with its line ends unified. -/
def textOf (octets : List UInt8) : Except Text.DecodeFault String :=
  (Text.decode octets).map fun s => String.ofList (Text.unifyLineEnds s.toList)

/-- Open a file to be written; it is there from then on, with the bytes it gets. -/
def create (files : Files) (p : Path) (octets : List UInt8) : Except FileFault Files := do
  let place ← files.place p
  match files.at? place with
  | some .folder => .error .isFolder
  | _ => .ok (files.put place (.file octets))

def writeText (files : Files) (p : Path) (text : String) : Except FileError Files :=
  (files.create p (Text.encode text.toList)).mapError fun fault => ⟨fault, p.text⟩

/-- Open a file to be continued; it is there from then on. -/
def openToAppend (files : Files) (p : Path) : Except FileError Files :=
  let opened := do
    let place ← files.place p
    match files.at? place with
    | some .folder => .error .isFolder
    | some (.file _) => .ok files
    | none => .ok (files.put place (.file []))
  opened.mapError fun fault => ⟨fault, p.text⟩

def append (files : Files) (p : Path) (text : String) : Files :=
  match files.place p with
  | .error _ => files
  | .ok place =>
    match files.at? place with
    | some .folder => files
    | some (.file octets) => files.put place (.file (octets ++ Text.encode text.toList))
    | none => files.put place (.file (Text.encode text.toList))

def makeFolder (files : Files) (p : Path) : Except FileFault Files := do
  let place ← files.place p
  match files.at? place with
  | some _ => .error .present
  | none => .ok (files.put place .folder)

/-- Make the folder that `names` lead to and those before it, longest path first. -/
def makeFoldersAt (files : Files) (root : String) (names : List String) : Except FileError Files :=
  let p : Path := ⟨root, names⟩
  match files.makeFolder p with
  | .ok files => .ok files
  | .error .missing =>
    if _h : names = [] then .error ⟨.missing, p.text⟩
    else
      match files.makeFoldersAt root names.dropLast with
      | .error e => .error e
      | .ok files =>
        match files.makeFolder p with
        | .ok files => .ok files
        | .error fault =>
          if files.isFolder p then .ok files else .error ⟨fault, p.text⟩
  | .error fault => if files.isFolder p then .ok files else .error ⟨fault, p.text⟩
termination_by names.length
decreasing_by
  have := List.length_pos_iff.mpr _h
  simp only [List.length_dropLast]
  omega

/-- Make a folder with all folders it lies in. It may be there already. -/
def makeFolders (files : Files) (p : Path) : Except FileError Files :=
  files.makeFoldersAt p.root p.names

/-- Add what there is at the outset: an entry with the folders it lies in. -/
def add (files : Files) (names : List String) (entry : Entry) : Files :=
  let folders := (List.range names.length).map names.take
  let files := folders.foldl (fun files place =>
    if (files.at? place).isSome then files else files.put place .folder) files
  files.put names entry

/-- The files that are new or have other bytes than before. -/
def changesFrom (files before : Files) : List (List String × List UInt8) :=
  files.entries.filterMap fun (place, entry) =>
    match entry with
    | .folder => none
    | .file octets => if before.at? place == some entry then none else some (place, octets)

end Files

end PageCheck
