import PageCheck.Cli.Run
import PageCheck.Log.Stamp

/-!
# The program

The files below the current folder are read, the program runs on them as on a value, and what it
has changed is written back. It has no way to the network: no page can be reached.
-/

namespace PageCheck.Main

/-- How many folders deep files are looked for. -/
def depthLimit : Nat := 8

/-- What is at an entry; what cannot be read is left out. -/
def entryAt (entry : IO.FS.DirEntry) : IO (Option Entry) := do
  try
    if ← entry.path.isDir then return some .folder
    return some (.file (← IO.FS.readBinFile entry.path).toList)
  catch _ => return none

def gather (names : List String) : Nat → Array IO.FS.DirEntry → IO (List (List String × Entry))
  | 0, _ => return []
  | depth + 1, found => do
    let mut entries := []
    for item in found do
      let place := names ++ [item.fileName]
      match ← entryAt item with
      | none => continue
      | some .folder =>
        entries := entries ++ (place, .folder) :: (← gather place depth (← item.path.readDir))
      | some file => entries := entries ++ [(place, file)]
    return entries

def stamp : IO Log.Stamp := do
  let (_, path) ← IO.FS.createTempFile
  let time := (← path.metadata).modified
  IO.FS.removeFile path
  return .ofTime (Log.stampOf time.sec.toNat time.nsec.toNat)

/-- The home of the running user, and those that the table of users names. -/
def homes : IO Homes := do
  let own := (← IO.getEnv "HOME").getD "/"
  let table ← try IO.FS.readFile "/etc/passwd" catch _ => pure ""
  let others := (table.splitOn "\n").filterMap fun line =>
    match line.splitOn ":" with
    | name :: _ :: _ :: _ :: _ :: home :: _ => some (name, .ofText home)
    | _ => none
  return ⟨.ofText own, others⟩

def files : IO Files := do
  let here ← IO.currentDir
  return ⟨.ofText here.toString, ← homes, ← gather [] depthLimit (← here.readDir)⟩

def writeBack (before after : Files) : IO Unit := do
  for (place, entry) in after.entries do
    if before.at? place != some entry then
      match entry with
      | .folder => IO.FS.createDirAll (Path.joined place)
      | .file octets => IO.FS.writeBinFile (Path.joined place) ⟨octets.toArray⟩

def run (words : List String) : IO UInt32 := do
  let before ← files
  let outcome := Cli.run ⟨before, .none, ← IO.getEnv "SPECFILE", ← stamp⟩ words
  writeBack before outcome.files
  IO.print outcome.output.shown
  IO.eprint outcome.errors
  match outcome.exit with
  | .code _ => pure ()
  | .escape e => IO.eprintln e.message
  return outcome.exit.number.toUInt32

end PageCheck.Main

def main (words : List String) : IO UInt32 := PageCheck.Main.run words
