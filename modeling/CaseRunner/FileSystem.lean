import CaseRunner.Lookup
import CaseRunner.Text.Quoted
import CaseRunner.Text.Search
import CaseRunner.Text.Utf8

/-!
# Files

The files that a run reads and writes, as a value: which paths name directories
and which name files, and what the files hold. Operations fail as they do on a
disk, with the words a disk uses.

Paths are texts with `/` between their parts, taken from the working directory.
Two spellings of one path – with `.`, with doubled separators – name one place.
-/

namespace CaseRunner

/-- Why an operation on files fails. -/
inductive FileFault where
  /-- Nothing has the path. -/
  | notFound
  /-- A part of the path is a file. -/
  | notADirectory
  /-- The path names a directory. -/
  | isADirectory
  /-- A directory was to be made where a file is. -/
  | exists
  /-- The file holds no text. -/
  | notText
  deriving DecidableEq, Repr

/-- The words for a fault. -/
def FileFault.reason : FileFault → String
  | .notFound => "No such file or directory (os error 2)"
  | .notADirectory => "Not a directory (os error 20)"
  | .isADirectory => "Is a directory (os error 21)"
  | .exists => "File exists (os error 17)"
  | .notText => "stream did not contain valid UTF-8"

/-- What a file holds. -/
inductive Content where
  | text (s : String)
  | bytes (bs : List UInt8)
  deriving DecidableEq, Repr

namespace Content

/-- The bytes of a file. -/
def toBytes : Content → List UInt8
  | .text s => Text.encode s
  | .bytes bs => bs

/-- The text of a file, if it holds text. -/
def text? : Content → Option String
  | .text s => some s
  | .bytes bs => Text.decode? bs

end Content

/-- What a path names. -/
inductive Entry where
  | directory
  | file (content : Content)
  deriving DecidableEq, Repr

/-- A place: the parts of a path, outermost first. -/
abbrev FileSystem.Place := List String

/-- The files and directories by place. The working directory itself is always
there. -/
structure FileSystem where
  /-- The entries; the first one of a place counts. -/
  entries : List (FileSystem.Place × Entry)

namespace FileSystem

/-- No files. -/
def empty : FileSystem := ⟨[]⟩

/-- What stands at a place. -/
def entryAt? (fs : FileSystem) (place : Place) : Option Entry :=
  if place = [] then some .directory else fs.entries.lookup place

/-- Puts an entry at a place. -/
def put (fs : FileSystem) (place : Place) (e : Entry) : FileSystem :=
  ⟨(place, e) :: fs.entries.filter (·.1 != place)⟩

/-- Removes the entry at a place. -/
def erase (fs : FileSystem) (place : Place) : FileSystem :=
  ⟨fs.entries.filter (·.1 != place)⟩

theorem entryAt?_put_self (fs : FileSystem) {place : Place} (e : Entry) (h : place ≠ []) :
    (fs.put place e).entryAt? place = some e := by
  simp [entryAt?, put, h]

theorem entryAt?_put_of_ne (fs : FileSystem) {place other : Place} (e : Entry)
    (h : other ≠ place) : (fs.put place e).entryAt? other = fs.entryAt? other := by
  have far : (other == place) = false := beq_false_of_ne h
  simp [entryAt?, put, List.lookup_cons, far, lookup_filter_of_ne h]

/-- Walks from a place along the parts of a path; every place that is walked
through must be a directory. -/
def walk (fs : FileSystem) : Place → List String → Except FileFault Place
  | here, [] => .ok here
  | here, part :: rest =>
    match fs.entryAt? here with
    | none => .error .notFound
    | some (.file _) => .error .notADirectory
    | some .directory =>
      if part = "" || part = "." then walk fs here rest
      else if part = ".." then walk fs here.dropLast rest
      else walk fs (here ++ [part]) rest

/-- The parts of a path, the empty ones too. -/
def parts (path : String) : List String :=
  (Text.splitBy (· == '/') path.toList).map String.ofList

/-- The place that a path names. A path from the root names a place beside the
working directory. -/
def locate (fs : FileSystem) (path : String) : Except FileFault Place :=
  if path = "" then .error .notFound
  else if path.startsWith "/" then .ok ("/" :: (parts path).filter (· != ""))
  else walk fs [] (parts path)

/-- The entry that a path names. -/
def find (fs : FileSystem) (path : String) : Except FileFault Entry := do
  let place ← fs.locate path
  match fs.entryAt? place with
  | some e => return e
  | none => throw .notFound

/-- Does a path name anything? -/
def «exists» (fs : FileSystem) (path : String) : Bool := (fs.find path).isOk

/-- Does a path name a file? -/
def isFile (fs : FileSystem) (path : String) : Bool :=
  match fs.find path with
  | .ok (.file _) => true
  | _ => false

/-- Does a path name a directory? -/
def isDirectory (fs : FileSystem) (path : String) : Bool :=
  match fs.find path with
  | .ok .directory => true
  | _ => false

/-- What the file with a path holds. -/
def read (fs : FileSystem) (path : String) : Except FileFault Content := do
  match ← fs.find path with
  | .file c => return c
  | .directory => throw .isADirectory

/-- The text of the file with a path. -/
def readText (fs : FileSystem) (path : String) : Except FileFault String := do
  match (← fs.read path).text? with
  | some s => return s
  | none => throw .notText

/-- The parts of a path without the empty ones at its end, which only say that it
names a directory. -/
def withoutTail (path : String) : List String :=
  ((parts path).reverse.dropWhile (· == "")).reverse

/-- Writes a text into the file with a path, in place of what it held. A path that
ends in a separator can only name a directory. -/
def write (fs : FileSystem) (path text : String) : Except FileFault FileSystem := do
  if path.endsWith "/" then
    let _ ← walk fs [] (withoutTail path)
    throw .isADirectory
  let place ← fs.locate path
  match fs.entryAt? place with
  | some .directory => throw .isADirectory
  | some (.file _) => return fs.put place (.file (.text text))
  | none =>
    if fs.entryAt? place.dropLast = some .directory then
      return fs.put place (.file (.text text))
    else throw .notFound

/-- Makes the directories along the parts of a path that are not there yet. -/
def makeAlong (fs : FileSystem) : Place → List String → Except FileFault FileSystem
  | _, [] => .ok fs
  | here, part :: rest =>
    if part = "" || part = "." then makeAlong fs here rest
    else
      let next := if part = ".." then here.dropLast else here ++ [part]
      match fs.entryAt? next with
      | some .directory => makeAlong fs next rest
      | some (.file _) => .error (if rest.isEmpty then .exists else .notADirectory)
      | none => makeAlong (fs.put next .directory) next rest

/-- Makes the directory with a path, and those above it. -/
def makeDirectories (fs : FileSystem) (path : String) : Except FileFault FileSystem :=
  makeAlong fs [] (parts path)

/-! ## Paths as texts -/

/-- The parts of a path, last one first, without those at the end that add
nothing. The first part of a path always stays. -/
def significant : List String → List String
  | p :: q :: above => if p = "" || p = "." then significant (q :: above) else p :: q :: above
  | ps => ps

/-- The path one level up; nothing for the empty path and the root. -/
def parent? (path : String) : Option String :=
  match significant (parts path).reverse with
  | [] => none
  | [p] => if p = "" then none else some ""
  | _ :: above =>
    match significant above with
    | [""] => some "/"
    | above => some (String.intercalate "/" above.reverse)

/-- A path inside a directory: one from the root stays as it is. -/
def join (directory path : String) : String :=
  if path.startsWith "/" then path
  else if directory = "" || directory.endsWith "/" then directory ++ path
  else directory ++ "/" ++ path

/-- The last part of a path. -/
def fileName? (path : String) : Option String :=
  match significant (parts path).reverse with
  | "" :: _ | "." :: _ | ".." :: _ | [] => none
  | name :: _ => some name

/-- What stands behind the last point of the last part of a path, if something
stands before it. -/
def extension? (path : String) : Option String :=
  (fileName? path).bind fun name =>
    match Text.splitOnce? '.' name.toList.reverse with
    | some (ext, stem) => if stem.isEmpty then none else some (String.ofList ext.reverse)
    | none => none

example : parent? "cfg/a.yaml" = some "cfg" ∧ parent? "a.yaml" = some "" := by decide
example : extension? "d/b.JSON" = some "JSON" ∧ extension? ".env" = none := by decide

end FileSystem

end CaseRunner
