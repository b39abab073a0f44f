import CaseRunner.CommandLine.Program
import Std.Time.DateTime.Timestamp

/-!
# The outer layer

Reads the files that the program looks at, runs it on them, prints what it prints and
writes the files that it changed. Nothing is decided here.
-/

namespace CaseRunner

/-- The parts of a path inside the working directory. -/
def placeOf (path : String) : FileSystem.Place :=
  (FileSystem.parts path).filter fun part => part != "" && part != "."

/-- The entries of a directory that lie on the way to one of the places or under
one of them. -/
partial def readDirectory (places : List FileSystem.Place) (directory : String)
    (here : FileSystem.Place) : IO (List (FileSystem.Place × Entry)) := do
  let mut entries := []
  for e in ← ((← IO.currentDir) / directory).readDir do
    let place := here ++ [e.fileName]
    if places.any fun p => place.isPrefixOf p || p.isPrefixOf place then
      if ← e.path.isDir then
        let inside ← readDirectory places e.path.toString place
        entries := (place, .directory) :: inside ++ entries
      else
        match ← (IO.FS.readBinFile e.path).toBaseIO with
        | .ok bytes => entries := (place, .file (.bytes bytes.toList)) :: entries
        | .error _ => pure ()
  return entries

/-- The files that the program looks at. -/
def readFiles (arguments : List String) : IO FileSystem := do
  let read (fs : FileSystem) : IO FileSystem := do
    return ⟨← readDirectory ((pathsOf arguments fs).map placeOf) "." []⟩
  read (← read .empty)

/-- Makes the directories and writes the files that have come or changed. -/
def writeChanges (before after : FileSystem) : IO Unit := do
  for (place, entry) in after.entries.reverse do
    let path := String.intercalate "/" place
    match entry with
    | .directory => unless before.isDirectory path do IO.FS.createDirAll path
    | .file content =>
      unless before.entryAt? place == some entry do
        IO.FS.writeBinFile path (ByteArray.mk content.toBytes.toArray)

/-- The circumstances of function calls: a moment, and numbers that follow from a
seed. -/
def circumstancesFrom (moment : Moment) (seed : Nat) (call : Nat) : Circumstance :=
  { moment
    random := fun i => ((seed + call * 2862933555777941757 + i * 3037000493) *
      6364136223846793005 + 1442695040888963407) % pow2 64 / pow2 20 }

/-- Runs the program on the working directory. -/
def runHere (arguments : List String) : IO UInt32 := do
  let files ← readFiles arguments
  let now := (← Std.Time.Timestamp.now).toNanosecondsSinceUnixEpoch.val
  let seed := (← IO.getRandomBytes 8).toList.foldl (fun n b => n * 256 + b.toNat) 0
  let colour := (← (← IO.getStdout).isTty) && (← IO.getEnv "NO_COLOR").isNone
  let ending := runProgram arguments
    { files, now, colour, calls := ⟨0, circumstancesFrom now seed⟩
      transport := fun _ => offline
      database := fun path => .error (.configInit ("cannot open database " ++
        Text.inQuotes path ++ ": there is no database engine")) }
  writeChanges files ending.files
  IO.print ending.output
  IO.eprint ending.errors
  return ending.exitCode.toUInt32

end CaseRunner

/-- The program. -/
def main (arguments : List String) : IO UInt32 := CaseRunner.runHere arguments
