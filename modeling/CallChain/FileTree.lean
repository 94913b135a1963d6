import CallChain.Text.Utf8

/-! A tree of files and directories, and the faults of working with paths in it. -/

namespace CallChain

/-- Why a file operation fails. -/
inductive FileFault where
  | notFound
  | alreadyExists
  | notDirectory
  | isDirectory
  | nameTooLong
  /-- The path holds a zero character. -/
  | invalidPath
  /-- The content is not a text. -/
  | notText
deriving DecidableEq, Repr

namespace FileFault

/-- The fault in words. -/
def message : FileFault → String
  | notFound => "No such file or directory (os error 2)"
  | alreadyExists => "File exists (os error 17)"
  | notDirectory => "Not a directory (os error 20)"
  | isDirectory => "Is a directory (os error 21)"
  | nameTooLong => "File name too long (os error 36)"
  | invalidPath => "file name contained an unexpected NUL byte"
  | notText => "stream did not contain valid UTF-8"

end FileFault

/-- What stands at a place of the tree. -/
inductive FileEntry where
  | file (content : Bytes)
  | directory
deriving DecidableEq, Repr

/-- A place of the tree: the names that lead there from its root. -/
abbrev Place := List String

/-- Files and directories by their places. -/
structure FileTree where
  /-- Where a path starts that has no slash in front. -/
  working : Place
  entries : List (Place × FileEntry)
deriving Repr

namespace FileTree

/-- The tree with nothing in it. -/
def empty : FileTree := ⟨[], []⟩

/-- What stands at a place; the working directory and those above it are always there. -/
def entry? (files : FileTree) (place : Place) : Option FileEntry :=
  if place.isPrefixOf files.working then some .directory
  else (files.entries.find? fun entry => entry.1 == place).map Prod.snd

/-- Puts an entry at a place, over whatever stood there. -/
def put (files : FileTree) (place : Place) (entry : FileEntry) : FileTree :=
  { files with entries := (place, entry) :: files.entries.filter fun other => other.1 != place }

/-- The parts of a text between slashes. -/
def splitSlashes : List Char → List (List Char)
  | [] => [[]]
  | c :: rest =>
    if c = '/' then [] :: splitSlashes rest
    else
      match splitSlashes rest with
      | [] => [[c]]
      | part :: parts => (c :: part) :: parts

/-- All parts of a path. -/
def parts (path : String) : List String :=
  (splitSlashes path.toList).map String.ofList

/-- The names a path leads over; empty parts lead nowhere. -/
def names (path : String) : List String :=
  (parts path).filter fun part => part != ""

/-- Whether a path ends with a slash, so that it can only mean a directory. -/
def meansDirectory (path : String) : Bool :=
  (parts path).getLast? == some ""

/-- The longest name of an entry, in bytes. -/
def longestName : Nat := 255

/-- The first length of a path that is too long, in bytes. -/
def pathLimit : Nat := 4096

/-- The place where a path starts. -/
def origin (files : FileTree) (path : String) : Place :=
  if path.toList.head? = some '/' then [] else files.working

/-- Checks that a directory stands at a place. -/
def checkDirectory (files : FileTree) (place : Place) : Except FileFault Unit :=
  match files.entry? place with
  | none => .error .notFound
  | some (.file _) => .error .notDirectory
  | some .directory => .ok ()

/-- Follows names from a place; every place on the way has to be a directory.

One dot means the place itself, two mean the one above. -/
def follow (files : FileTree) : (place : Place) → List String → Except FileFault Place
  | place, [] => .ok place
  | place, name :: rest => do
    files.checkDirectory place
    if name = "." then files.follow place rest
    else if name = ".." then files.follow place.dropLast rest
    else if longestName < name.utf8ByteSize then throw .nameTooLong
    else files.follow (place ++ [name]) rest

/-- Checks that a path can be followed at all. -/
def checkPath (path : String) : Except FileFault Unit :=
  if path.toList.contains '\x00' then .error .invalidPath
  else if path = "" then .error .notFound
  else if pathLimit ≤ path.utf8ByteSize then .error .nameTooLong
  else .ok ()

/-- The place a path leads to, whether or not something stands there. -/
def locate (files : FileTree) (path : String) : Except FileFault Place := do
  checkPath path
  files.follow (files.origin path) (names path)

/-- The directory that names lead to when the last of them is left out. -/
def followParent (files : FileTree) (place : Place) (names : List String) :
    Except FileFault Place := do
  let parent ← files.follow place names.dropLast
  files.checkDirectory parent
  return parent

/-- The content of a file. -/
def read (files : FileTree) (path : String) : Except FileFault Bytes := do
  match files.entry? (← files.locate path) with
  | none => throw .notFound
  | some .directory => throw .isDirectory
  | some (.file content) => if meansDirectory path then throw .notDirectory else return content

/-- The content of a file that has to be a text. -/
def readText (files : FileTree) (path : String) : Except FileFault String := do
  match Text.ofBytes? (← files.read path) with
  | none => throw .notText
  | some text => return text

/-- Makes a file or replaces the content of one. Only what stands in the tree can be in the way:
nobody is denied access to a file, and there is always room for the whole content. -/
def write (files : FileTree) (path : String) (content : Bytes) : Except FileFault FileTree := do
  checkPath path
  if meansDirectory path then
    -- Whatever the last name is, no file can be made under it, so it is not even looked at.
    let _ ← files.followParent (files.origin path) (names path)
    throw .isDirectory
  let place ← files.follow (files.origin path) (names path)
  if files.entry? place = some .directory then throw .isDirectory
  return files.put place (.file content)

/-- Makes the one directory that names lead to from a place; its parent has to be there. -/
def makeOne (files : FileTree) (place : Place) (names : List String) :
    Except FileFault FileTree := do
  let parent ← files.followParent place names
  match names.getLast? with
  | none => throw .alreadyExists
  | some name =>
    if name = "." || name = ".." then throw .alreadyExists
    if longestName < name.utf8ByteSize then throw .nameTooLong
    let made := parent ++ [name]
    if (files.entry? made).isSome then throw .alreadyExists
    return files.put made .directory

/-- Whether names lead to a directory. -/
def leadsToDirectory (files : FileTree) (place : Place) (names : List String) : Bool :=
  match files.follow place names with
  | .ok found => files.entry? found == some .directory
  | .error _ => false

/-- Makes a directory unless it is there already. -/
def ensureOne (files : FileTree) (place : Place) (names : List String) :
    Except FileFault FileTree :=
  match files.makeOne place names with
  | .ok files => .ok files
  | .error fault =>
    if fault = .alreadyExists ∧ files.leadsToDirectory place names then .ok files
    else .error fault

/-- Makes the first of several directories, each of which lies in the next, and of the others
those that it needs; those that were made stay when a later one cannot be made. -/
def makeDirectories (files : FileTree) (place : Place) : (paths : List (List String)) →
    FileTree × Except FileFault Unit
  | [] => (files, .ok ())
  | names :: outer =>
    match files.ensureOne place names with
    | .ok files => (files, .ok ())
    | .error .notFound =>
      match files.makeDirectories place outer with
      | (files, .error fault) => (files, .error fault)
      | (files, .ok ()) =>
        match files.ensureOne place names with
        | .ok files => (files, .ok ())
        | .error fault => (files, .error fault)
    | .error fault => (files, .error fault)

/-- The lists that a list begins with, longest first and without the empty one. -/
def beginnings : List String → List (List String)
  | [] => []
  | name :: rest => (beginnings rest).map (name :: ·) ++ [[name]]

/-- The names of a directory, then those of each directory above it, innermost first.

A dot stands for the place itself and names nothing above it; only the first list keeps it. -/
def withOuter (names : List String) : List (List String) :=
  if names.isEmpty then []
  else names :: beginnings (names.filter fun name => name != ".").dropLast

/-- Makes a directory and those above it, where they are missing. -/
def makeDirectory (files : FileTree) (path : String) : FileTree × Except FileFault Unit :=
  if path = "" then (files, .ok ())
  else
    match checkPath path with
    | .error fault => (files, .error fault)
    | .ok () => files.makeDirectories (files.origin path) (withOuter (names path))

/-- The files that stand in a directory, with their names. -/
def filesIn (files : FileTree) (place : Place) : List (String × Bytes) :=
  files.entries.filterMap fun
    | (other, .file content) =>
      if other.dropLast = place then other.getLast?.map (·, content) else none
    | _ => none

/-- The path of an entry of a directory. -/
def join (directory name : String) : String :=
  if directory = "" ∨ (parts directory).getLast? = some "" then directory ++ name
  else directory ++ "/" ++ name

/-- What follows the last dot of the last name of a path, if something stands before that dot. -/
def extension? (path : String) : Option String :=
  match ((names path).filter fun name => name != ".").getLast? with
  | none => none
  | some name =>
    let (after, before) := name.toList.reverse.span fun c => c != '.'
    if name = ".." || before.length < 2 then none else some (String.ofList after.reverse)

end FileTree

end CallChain
