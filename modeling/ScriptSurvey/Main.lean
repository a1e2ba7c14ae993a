import ScriptSurvey.CommandLine.Run
import ScriptSurvey.Syntax.Written
import ScriptSurvey.Tools.Line

/-!
# The program

The program reads the project around a path from disk and answers one question about it, or serves
tool calls line by line. The syntax tree of a script `a.ts` may stand beside it in `a.ts.tree`; a
script without one is read as JavaScript.
-/
namespace ScriptSurvey.Program

/-- Files that decide where a project begins and what is ignored in it. -/
def markers : List String := ["package.json", ".gitignore", ".ignore"]

def treeExtension : String := ".tree"

def repositoryDir : String := ".git"

def readBytes? (path : String) : IO (Option ByteArray) := do
  try
    return some (← IO.FS.readBinFile path)
  catch _ => return none

/-- A file with the tree that stands beside it. -/
def readFile (path : String) : IO File := do
  let bytes := (← readBytes? path).getD ByteArray.empty
  let written := (← readBytes? (path ++ treeExtension)).bind String.fromUTF8?
  return ⟨bytes, (written.bind Json.parse?).bind (Syntax.ofWritten? bytes)⟩

/-- A repository with nothing but its list of exclusions. -/
def readRepository (path : String) : IO Entry := do
  match ← readBytes? (path ++ "/info/exclude") with
  | some bytes => return (Entry.dir []).update ["info", "exclude"] (some (.file ⟨bytes, none⟩))
  | none => return .dir []

/-- An entry with all that is below it that can be read. Installed packages are never looked
into. -/
partial def readEntry (path : String) : IO Entry := do
  let place ← IO.FS.realPath path
  if !(← place.isDir) then return .file (← readFile path)
  let mut entries : List (String × Entry) := []
  for item in (← place.readDir).toList do
    let inner := path ++ "/" ++ item.fileName
    try
      let entry ←
        if item.fileName == repositoryDir then readRepository inner
        else if item.fileName == Walk.packagesDir then pure (.dir [])
        else readEntry inner
      entries := (item.fileName, entry) :: entries
    catch _ => pure ()
  return .dir entries.reverse

/-- Adds the markers that a directory holds. -/
def addMarkers (files : FileSystem) (dir : Path) : IO FileSystem := do
  let mut files := files
  for name in markers do
    let marker := dir.child name
    match ← readBytes? marker.toString with
    | some bytes => files := files.write marker ⟨bytes, none⟩
    | none => pure ()
  let repository := dir.child repositoryDir
  try
    let _ ← IO.FS.realPath repository.toString
    let entry ← readRepository repository.toString
    return ⟨files.root.update repository.names (some entry)⟩
  catch _ => return files

/-- The project around a path, and the markers above it. -/
def load (path : String) : IO FileSystem := do
  try
    let place ← IO.FS.realPath path
    let start := Path.ofString place.toString
    let mut files := FileSystem.empty
    if ← place.isDir then files := files.makeDir start
    else files := files.write start ⟨ByteArray.empty, none⟩
    for dir in start.ancestors do
      if files.isDir dir then files ← addMarkers files dir
    let root := Walk.findProjectRoot files start
    let entry ← readEntry root.toString
    return ⟨files.root.update root.names (some entry)⟩
  catch _ => return FileSystem.empty

def writeFile (path : Path) (bytes : ByteArray) : IO Unit := do
  IO.FS.createDirAll ((path.parent?.getD path).toString)
  IO.FS.writeBinFile path.toString bytes

/-- Answers one call after the other until the input ends. -/
partial def serve (server : Tools.Server) (input output : IO.FS.Stream) : IO Unit := do
  let line ← input.getLine
  if line.isEmpty then return
  match Tools.Request.ofLine? line with
  | none =>
    output.putStrLn Tools.Reply.refused.toLine
    output.flush
    serve server input output
  | some request =>
    let files ← load (Path.joinText server.workDir (request.project.getD server.root))
    let outcome := server.answer files request
    for (path, bytes) in outcome.files.filesSince files do
      writeFile path bytes
    output.putStrLn outcome.reply.toLine
    output.flush
    serve outcome.server input output

def print (output : CommandLine.Output) : IO UInt32 := do
  IO.print output.stdout
  IO.eprint output.stderr
  return output.code.toUInt32

def run (words : List String) : IO UInt32 := do
  let workDir := (← IO.FS.realPath ".").toString
  match CommandLine.Command.read words with
  | .error _ => print (CommandLine.run FileSystem.empty workDir words)
  | .ok (.ask _ path _) =>
    print (CommandLine.run (← load (Path.joinText workDir path)) workDir words)
  | .ok (.serve path) =>
    let files ← load (Path.joinText workDir path)
    match CommandLine.project files workDir path with
    | .error e => print ⟨1, "", "Error: " ++ e.message ++ "\n"⟩
    | .ok (root, _) =>
      serve (Tools.Server.create files workDir root.toString) (← IO.getStdin) (← IO.getStdout)
      return 0

end ScriptSurvey.Program

def main (words : List String) : IO UInt32 := ScriptSurvey.Program.run words
