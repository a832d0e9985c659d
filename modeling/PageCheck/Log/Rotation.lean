import PageCheck.Files.Store

/-!
# Log files that are put aside

A log file does not grow beyond a size. The line that would take it there goes to the start of an empty
file; what was there is put aside under a name with a number, and what had been put aside before goes on
to the next number. The file with the last number gives way.
-/

namespace PageCheck.Files

/-- The size in bytes that a log file does not reach. -/
def logSize : Nat := 5 * 1024 * 1024

/-- The place for a file that is put aside. -/
def aside (place : List String) (ending : String) : List String :=
  place.dropLast ++ [place.getLast?.getD "" ++ ending]

def remove (files : Files) (place : List String) : Files :=
  { files with entries := files.entries.filter (·.1 != place) }

/-- Move what is at a place to another one, whose entry gives way. A folder takes along what it holds. -/
def move (files : Files) (a b : List String) : Files :=
  match files.at? a with
  | none => files
  | some (.file octets) => (files.remove a).put b (.file octets)
  | some .folder => { files with entries := (files.remove b).entries.map fun (place, entry) =>
      (if a.isPrefixOf place then b ++ place.drop a.length else place, entry) }

/-- The endings with which a file has been put aside, and those that it gets next. -/
def turns : List (String × String) := [(".2", ".3"), (".1", ".2"), ("", ".1")]

def putAside (files : Files) (place : List String) : Files :=
  turns.foldl (fun files turn => files.move (aside place turn.1) (aside place turn.2)) files

/-- Put the file at a place aside and start an empty one. A folder that would have to give way keeps it
from that. -/
def turn? (files : Files) (place : List String) : Option Files :=
  if (files.at? (aside place ".2")).isSome && files.at? (aside place ".3") == some .folder then none
  else some ((files.putAside place).put place (.file []))

/-- The files when a log file is ready for so many more characters. -/
def ready? (files : Files) (p : Path) (count : Nat) : Option Files :=
  match files.place p with
  | .error _ => some files
  | .ok place =>
    match files.at? place with
    | some (.file octets) =>
      if octets.length + count < logSize then some files else files.turn? place
    | _ => some files

/-- The files after an attempt to write a line to a log file. -/
def addLine (files : Files) (p : Path) (line : Text.Codes) : Files :=
  match files.ready? p line.length with
  | none => files
  | some files =>
    match line.written with
    | .ok text => files.append p text
    | .error _ => files

end PageCheck.Files
