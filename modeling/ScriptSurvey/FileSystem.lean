import ScriptSurvey.Path
import ScriptSurvey.Syntax.Node

/-!
# File systems

A file system is a tree of directories. A file holds bytes, and the syntax tree that the grammar
of its language gives to them. Paths are followed name by name from the root. Names are texts. Of
the files whose names are no texts only the raw records are kept, which a rule directory may hold.
-/
namespace ScriptSurvey

structure File where
  bytes : ByteArray
  tree : Option Syntax.Node

instance : Inhabited File := ⟨⟨ByteArray.empty, none⟩⟩

/-- A record whose file has a name that is no text: the bytes of its stem are not UTF-8. -/
structure RawRecord where
  stem : List UInt8
  content : File
  noText : stem.toByteArray.validateUTF8 = false := by decide

inductive Entry where
  | file (content : File)
  | dir (entries : List (String × Entry)) (rawRecords : List RawRecord := [])

instance : Inhabited Entry := ⟨.dir []⟩

namespace File

/-- The bytes as text, when they are UTF-8. -/
def text? (file : File) : Option String := String.fromUTF8? file.bytes

def ofText (text : String) : File := ⟨text.toUTF8, none⟩

end File

namespace Entry

def isDir : Entry → Bool
  | dir .. => true
  | file _ => false

def child? (entry : Entry) (name : String) : Option Entry :=
  match entry with
  | dir entries _ => entries.lookup name
  | file _ => none

def descend? (entry : Entry) (names : List String) : Option Entry :=
  match names with
  | [] => some entry
  | name :: rest => (entry.child? name).bind (·.descend? rest)

/-- The entries of a directory; a file has none. -/
def entries : Entry → List (String × Entry)
  | dir entries _ => entries
  | file _ => []

def rawRecords : Entry → List RawRecord
  | dir _ rawRecords => rawRecords
  | file _ => []

/-- Sets or takes away the entry of one name. -/
def setChild (entry : Entry) (name : String) (value : Option Entry) : Entry :=
  let others := entry.entries.filter (·.1 != name)
  match value with
  | some v => dir (others ++ [(name, v)]) entry.rawRecords
  | none => dir others entry.rawRecords

/-- Sets the entry below `names`, making the directories on the way; `none` takes it away. -/
def update (entry : Entry) (names : List String) (value : Option Entry) : Entry :=
  match names with
  | [] => value.getD entry
  | [name] => entry.setChild name value
  | name :: rest =>
    match entry.child? name, value with
    | none, none => entry
    | inner, _ => entry.setChild name (some ((inner.getD (dir [])).update rest value))

mutual

/-- The files of an entry that another entry lacks or holds with other bytes, as the names that lead
to them. -/
def newFiles (old : Option Entry) (names : List String) : Entry → List (List String × ByteArray)
  | file content =>
    match old with
    | some (file before) => if before.bytes == content.bytes then [] else [(names, content.bytes)]
    | _ => [(names, content.bytes)]
  | dir entries _ => newFilesAmong old names entries

def newFilesAmong (old : Option Entry) (names : List String) :
    List (String × Entry) → List (List String × ByteArray)
  | [] => []
  | (name, entry) :: rest =>
    newFiles (old.bind (·.child? name)) (names ++ [name]) entry ++ newFilesAmong old names rest

end

end Entry

structure FileSystem where
  root : Entry

instance : Inhabited FileSystem := ⟨⟨.dir []⟩⟩

namespace FileSystem

def empty : FileSystem := ⟨.dir []⟩

/-- The entry of a path that holds no `.` or `..`. -/
def entry? (files : FileSystem) (path : Path) : Option Entry := files.root.descend? path.names

def isDir (files : FileSystem) (path : Path) : Bool := ((files.entry? path).map Entry.isDir).getD false

def rawRecords (files : FileSystem) (path : Path) : List RawRecord :=
  ((files.entry? path).map Entry.rawRecords).getD []

/-- Follows the pieces of a path text. Every piece, an empty one and `.` included, is looked up in a
directory. -/
def follow (files : FileSystem) (at_ : List String) (pieces : List String) :
    Option (List String) :=
  match pieces with
  | [] => some at_
  | piece :: rest =>
    if !files.isDir ⟨true, at_⟩ then none
    else if piece = "" || piece = "." then files.follow at_ rest
    else if piece = ".." then files.follow at_.dropLast rest
    else
      let next := at_ ++ [piece]
      if (files.entry? ⟨true, next⟩).isSome then files.follow next rest else none

/-- The path without `.` and `..` that an anchored path text leads to; none when it leads nowhere. -/
def canonical? (files : FileSystem) (text : String) : Option Path :=
  (files.follow [] (Text.split text '/')).map (⟨true, ·⟩)

/-- The path that a text leads to, seen from `workDir`; an empty text leads nowhere. -/
def locate? (files : FileSystem) (workDir text : String) : Option Path :=
  if text.isEmpty then none else files.canonical? (Path.joinText workDir text)

def file? (files : FileSystem) (path : Path) : Option File :=
  match files.entry? path with
  | some (.file f) => some f
  | _ => none

def readText? (files : FileSystem) (path : Path) : Option String :=
  (files.file? path).bind File.text?

def isFile (files : FileSystem) (path : Path) : Bool := (files.file? path).isSome

def write (files : FileSystem) (path : Path) (content : File) : FileSystem :=
  ⟨files.root.update path.names (some (.file content))⟩

/-- Makes a directory with those above it; one that exists is left as it is. -/
def makeDir (files : FileSystem) (path : Path) : FileSystem :=
  if (files.entry? path).isSome then files
  else ⟨files.root.update path.names (some (.dir []))⟩

/-- Why a place in the tree cannot be written. -/
inductive Obstacle where
  | fileThere
  | fileAbove
  | dirThere
  deriving DecidableEq, Repr, Inhabited

namespace Obstacle

def message : Obstacle → String
  | fileThere => "File exists (os error 17)"
  | fileAbove => "Not a directory (os error 20)"
  | dirThere => "Is a directory (os error 21)"

end Obstacle

/-- Follows the pieces of a path text and makes the directories that are missing. -/
def followMaking (files : FileSystem) (at_ : List String) (pieces : List String) :
    Except Obstacle (List String × FileSystem) :=
  match pieces with
  | [] => if files.isDir ⟨true, at_⟩ then .ok (at_, files) else .error .fileThere
  | piece :: rest =>
    if !files.isDir ⟨true, at_⟩ then .error .fileAbove
    else if piece = "" || piece = "." then files.followMaking at_ rest
    else if piece = ".." then files.followMaking at_.dropLast rest
    else (files.makeDir ⟨true, at_ ++ [piece]⟩).followMaking (at_ ++ [piece]) rest

/-- The files after the missing directories of a path text are made up to the first obstacle. -/
def makeUntilBlocked (files : FileSystem) (at_ : List String) (pieces : List String) : FileSystem :=
  match pieces with
  | [] => files
  | piece :: rest =>
    if !files.isDir ⟨true, at_⟩ then files
    else if piece = "" || piece = "." then files.makeUntilBlocked at_ rest
    else if piece = ".." then files.makeUntilBlocked at_.dropLast rest
    else (files.makeDir ⟨true, at_ ++ [piece]⟩).makeUntilBlocked (at_ ++ [piece]) rest

/-- The directory that an anchored path text leads to, made together with those above it. -/
def makeDirs (files : FileSystem) (text : String) : Except Obstacle (Path × FileSystem) :=
  (files.followMaking [] (Text.split text '/')).map fun (names, made) => (⟨true, names⟩, made)

/-- The entries of the directory that an anchored path text leads to; none when it is no
directory. -/
def entriesAt (files : FileSystem) (text : String) : List (String × Entry) :=
  (((files.canonical? text).bind files.entry?).map Entry.entries).getD []

def rawRecordsAt (files : FileSystem) (text : String) : List RawRecord :=
  ((files.canonical? text).map files.rawRecords).getD []

/-- The files that differ from those of another file system. -/
def filesSince (files before : FileSystem) : List (Path × ByteArray) :=
  (Entry.newFiles (some before.root) [] files.root).map fun (names, bytes) => (⟨true, names⟩, bytes)

def delete (files : FileSystem) (path : Path) : FileSystem :=
  ⟨files.root.update path.names none⟩

end FileSystem

end ScriptSurvey
