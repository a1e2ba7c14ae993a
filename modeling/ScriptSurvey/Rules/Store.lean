import ScriptSurvey.Config
import ScriptSurvey.Rules.BuiltIn
import ScriptSurvey.Rules.Compiled
import ScriptSurvey.Rules.SetRecord

/-!
# Stores of rule sets

A store maps names to sets: the built-in ones and those that the rule directory of a project holds, one
record to a file. Every change writes the whole record of one set.
-/
namespace ScriptSurvey

/-- Where a record lies. The name of a raw one is no text. -/
inductive RecordPath where
  | text (path : String)
  | raw (directory : String) (name : List UInt8)
  deriving DecidableEq, Repr, Inhabited

/-- The path as a text, without a name that is none. -/
def RecordPath.toText : RecordPath → String
  | text path => path
  | raw directory _ => directory

instance : Coe RecordPath String := ⟨RecordPath.toText⟩

inductive SetSource where
  | builtIn
  | file (path : RecordPath)
  deriving DecidableEq, Repr, Inhabited

structure StoredSet where
  set : RuleSet
  source : SetSource
  deriving BEq, Repr, Inhabited

/-- The directory is a path text. The sets are sorted by their keys, and no two have the same. -/
structure RuleStore where
  directory : String
  sets : List (String × StoredSet)
  deriving BEq, Repr, Inhabited

namespace RuleStore

/-- Why a set cannot be written. -/
inductive Error where
  | invalidName (set : String)
  | invalidRule (set id : String) (fault : Rule.Fault)
  | unknownSet (set : String)
  | unknownRule (set id : String)
  | duplicateRule (set id : String)
  | blocked (obstacle : FileSystem.Obstacle)
  deriving DecidableEq, Repr, Inhabited

namespace Error

def message : Error → String
  | invalidName set => s!"invalid rule set '{set}': "
      ++ "set names may only contain letters, digits, '-', '_' and '.'"
  | invalidRule set id fault => s!"invalid rule set '{set}': rule '{id}': " ++ fault.message
  | unknownSet set => s!"rule set '{set}' not found"
  | unknownRule set id => s!"rule '{id}' not found in rule set '{set}'"
  | duplicateRule set id => s!"rule '{id}' already exists in rule set '{set}'"
  | blocked obstacle => obstacle.message

end Error

/-- Puts a set under a key, in the place of the one that is there. -/
def insertSet (sets : List (String × StoredSet)) (key : String) (stored : StoredSet) :
    List (String × StoredSet) :=
  match sets with
  | [] => [(key, stored)]
  | (other, old) :: rest =>
    if key < other then (key, stored) :: (other, old) :: rest
    else if other < key then (other, old) :: insertSet rest key stored
    else (key, stored) :: rest

/-- Puts sets under their names, the last one of a name over the others. -/
def insertAll (sets : List (String × StoredSet)) (loaded : List StoredSet) :
    List (String × StoredSet) :=
  loaded.foldl (fun sets stored => insertSet sets stored.set.name stored) sets

def recordExtension : String := "toml"

/-- The set that a file holds, with the name `stem` when its record has none. -/
def loadRecord? (stem : String) (source : SetSource) (content : File) : Option StoredSet :=
  (content.text?.bind (RuleSet.parse? stem)).map fun set => ⟨set, source⟩

/-- The set that a file of the rule directory holds. -/
def loadFile? (directory : String) (name : String) (entry : Entry) : Option StoredSet :=
  match Path.splitExtension name, entry with
  | (stem, some extension), .file content =>
    if extension = recordExtension then
      loadRecord? stem (.file (.text (Path.joinText directory name))) content
    else none
  | _, _ => none

def rawName (record : RawRecord) : List UInt8 :=
  record.stem ++ ("." ++ recordExtension).toUTF8.data.toList

def rawLe (a b : RawRecord) : Bool := decide (rawName a ≤ rawName b)

/-- A stem that is no text counts as an empty one. -/
def loadRaw? (directory : String) (record : RawRecord) : Option StoredSet :=
  loadRecord? "" (.file (.raw directory (rawName record))) record.content

/-- The sets that the files of the rule directory hold. -/
def fileSets (directory : String) (entries : List (String × Entry)) : List StoredSet :=
  entries.filterMap fun (name, entry) => loadFile? directory name entry

def rawSets (directory : String) (rawRecords : List RawRecord) : List StoredSet :=
  (rawRecords.mergeSort rawLe).filterMap (loadRaw? directory)

def builtInSets : List (String × StoredSet) :=
  insertAll [] (RuleSet.builtIn.map (⟨·, .builtIn⟩))

/-- The store of the project at `root`. Files without a sound record are passed over. Raw records give
sets without a name and other files do not, so only the order of the raw ones matters. -/
def load (files : FileSystem) (root : Path) (config : RulesConfig) : RuleStore :=
  let directory := Path.joinText root.toString config.directory
  ⟨directory, insertAll builtInSets
    (fileSets directory (files.entriesAt directory) ++ rawSets directory (files.rawRecordsAt directory))⟩

def stored? (store : RuleStore) (name : String) : Option StoredSet := store.sets.lookup name

def get? (store : RuleStore) (name : String) : Option RuleSet := (store.stored? name).map (·.set)

def source? (store : RuleStore) (name : String) : Option SetSource :=
  (store.stored? name).map (·.source)

def ruleSets (store : RuleStore) : List RuleSet := store.sets.map (·.2.set)

def isNameChar (c : Char) : Bool := c.isAlphanum || c == '-' || c == '_' || c == '.'

/-- A set name can be used as a file name that is not hidden. -/
def isValidName (name : String) : Bool :=
  !name.isEmpty && name.toList.all isNameChar && !name.startsWith "."

/-- Writes the record of a set and puts the set into the store. -/
def save (store : RuleStore) (files : FileSystem) (set : RuleSet) :
    Except Error (RuleStore × FileSystem) :=
  let name := set.name ++ "." ++ recordExtension
  match files.makeDirs store.directory with
  | .error obstacle => .error (.blocked obstacle)
  | .ok (directory, made) =>
    let target := directory.child name
    if made.isDir target then .error (.blocked .dirThere)
    else .ok (
      { store with
        sets := insertSet store.sets set.name
          ⟨set, .file (.text (Path.joinText store.directory name))⟩ },
      made.write target (File.ofText set.write))

def compiles (set : String) (rule : Rule) : Except Error Unit :=
  match CompiledRule.compile set rule with
  | .ok _ => .ok ()
  | .error fault => .error (.invalidRule set rule.id fault)

/-- Adds a rule at the end of a set; a set that does not exist is made. -/
def addRule (store : RuleStore) (files : FileSystem) (setName : String) (rule : Rule) :
    Except Error (RuleStore × FileSystem) := do
  if !isValidName setName then throw (.invalidName setName)
  compiles setName rule
  let set := (store.get? setName).getD (RuleSet.named setName)
  if (set.rule? rule.id).isSome then throw (.duplicateRule setName rule.id)
  store.save files { set with rules := set.rules ++ [rule] }

def existing (store : RuleStore) (setName : String) : Except Error RuleSet :=
  match store.get? setName with
  | some set => .ok set
  | none => .error (.unknownSet setName)

/-- The rule of a set with an identifier, and its place. -/
def existingRule (set : RuleSet) (setName id : String) : Except Error (Rule × Nat) :=
  match set.rules.findIdx? (·.id == id), set.rule? id with
  | some place, some rule => .ok (rule, place)
  | _, _ => .error (.unknownRule setName id)

/-- Patches a rule of a set and returns it. -/
def updateRule (store : RuleStore) (files : FileSystem) (setName id : String)
    (patch : RulePatch) : Except Error (Rule × RuleStore × FileSystem) := do
  let set ← store.existing setName
  let (rule, place) ← existingRule set setName id
  let patched := patch.apply rule
  compiles setName patched
  let saved ← store.save files { set with rules := set.rules.set place patched }
  return (patched, saved)

/-- Removes a rule of a set and returns it. -/
def deleteRule (store : RuleStore) (files : FileSystem) (setName id : String) :
    Except Error (Rule × RuleStore × FileSystem) := do
  let set ← store.existing setName
  let (rule, place) ← existingRule set setName id
  let saved ← store.save files { set with rules := set.rules.eraseIdx place }
  return (rule, saved)

/-- The store and the files after a change was asked for. A change that fails leaves both as they are,
except that the directories stay that were made for a record before it could not be written. -/
def settle (store : RuleStore) (files : FileSystem) (result : Except Error (RuleStore × FileSystem)) :
    RuleStore × FileSystem :=
  match result with
  | .ok changed => changed
  | .error (.blocked _) => (store, files.makeUntilBlocked [] (Text.split store.directory '/'))
  | .error _ => (store, files)

end RuleStore

end ScriptSurvey
