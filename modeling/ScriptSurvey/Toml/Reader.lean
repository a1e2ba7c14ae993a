import ScriptSurvey.Toml.Scalar
import ScriptSurvey.Toml.Strings

/-!
# Reading TOML

A document is a sequence of statements: headers of tables, headers of arrays of tables, and keys
with values. They fill a tree of items in which a table remembers how it came about, because only
tables that no statement has written out may still be extended.
-/
namespace ScriptSurvey.Toml

/-- A table is implied when only longer paths mention it, and dotted when those paths belong to
keys. -/
inductive Item where
  | leaf (value : Value)
  | table (implied dotted : Bool) (entries : List (String × Item))
  | tables (elements : List (List (String × Item)))
  deriving Inhabited

abbrev Items := List (String × Item)

namespace Item

mutual

def toValue : Item → Value
  | leaf v => v
  | table _ _ entries => .table (toEntries entries)
  | tables elements => .array (toTables elements)

def toEntries : List (String × Item) → List (String × Value)
  | [] => []
  | (k, i) :: rest => (k, toValue i) :: toEntries rest

def toTables : List (List (String × Item)) → List Value
  | [] => []
  | t :: rest => .table (toEntries t) :: toTables rest

end

end Item

/-- A table on the way down a path. -/
structure OpenTable where
  implied : Bool
  dotted : Bool
  entries : Items

/-- Puts an item under a key, in its old place if it had one. -/
def setItem (entries : Items) (key : String) (item : Item) : Items :=
  if entries.any (·.1 == key) then entries.map fun e => if e.1 == key then (key, item) else e
  else entries ++ [(key, item)]

/-- Changes the table at the end of a path. Missing tables are implied; an array of tables is
entered at its last element. The path of a key does not enter tables that were written out. -/
def updateAt (dotted : Bool) (path : List String) (change : OpenTable → Option Items)
    (t : OpenTable) : Option Items :=
  match path with
  | [] => change t
  | key :: rest =>
    match t.entries.lookup key with
    | none =>
      (updateAt dotted rest change ⟨true, dotted, []⟩).map fun inner =>
        setItem t.entries key (.table true dotted inner)
    | some (.leaf _) => none
    | some (.table implied dots entries) =>
      if dotted && !implied then none
      else (updateAt dotted rest change ⟨implied, dots, entries⟩).map fun inner =>
        setItem t.entries key (.table implied dots inner)
    | some (.tables elements) =>
      match elements.getLast? with
      | none => none
      | some last =>
        (updateAt dotted rest change ⟨false, false, last⟩).map fun inner =>
          setItem t.entries key (.tables (elements.dropLast ++ [inner]))

/-- Adds a value under a path of keys to a table. -/
def addKey (path : List String) (value : Value) (t : OpenTable) : Option Items :=
  match path.getLast? with
  | none => none
  | some key =>
    let parents := path.dropLast
    updateAt true parents (fun inner =>
      if !parents.isEmpty && !inner.dotted then none
      else if inner.entries.any (·.1 == key) then none
      else some (inner.entries ++ [(key, .leaf value)])) t

/-- Opens a table by its header. -/
def openTable (path : List String) (entries : Items) : Option Items :=
  match path.getLast? with
  | none => none
  | some key =>
    updateAt false path.dropLast (fun t =>
      match t.entries.lookup key with
      | none => some (t.entries ++ [(key, .table false false [])])
      | some (.table true false inner) => some (setItem t.entries key (.table false false inner))
      | some _ => none) ⟨false, false, entries⟩

/-- Opens a new element of an array of tables by its header. -/
def openElement (path : List String) (entries : Items) : Option Items :=
  match path.getLast? with
  | none => none
  | some key =>
    updateAt false path.dropLast (fun t =>
      match t.entries.lookup key with
      | none => some (t.entries ++ [(key, .tables [[]])])
      | some (.tables elements) => some (setItem t.entries key (.tables (elements ++ [[]])))
      | some _ => none) ⟨false, false, entries⟩

/-- Skips a comment up to its line ending. -/
def skipComment? (text : List Char) : Option (List Char) :=
  match text with
  | '#' :: rest =>
    let after := rest.dropWhile fun c => !isForbidden c
    match after with
    | [] => some []
    | _ => (newline? after).map fun _ => after
  | _ => some text

/-- Skips blanks, comments and line endings. -/
def skipFiller? : Nat → List Char → Option (List Char)
  | 0, text => some text
  | fuel + 1, text =>
    (skipComment? (skipInline text)).bind fun rest =>
      match newline? rest with
      | some after => skipFiller? fuel after
      | none => some rest

def isBareKey (c : Char) : Bool := c.isAlphanum || c == '_' || c == '-'

def simpleKey? (text : List Char) : Option (String × List Char) :=
  match text with
  | '"' :: _ | '\'' :: _ => readPlainString text
  | _ =>
    let name := text.takeWhile isBareKey
    if name.isEmpty then none else some (String.ofList name, text.dropWhile isBareKey)

/-- Keys with dots between them. -/
def keyPath? : Nat → List Char → Option (List String × List Char)
  | 0, _ => none
  | fuel + 1, text =>
    (simpleKey? (skipInline text)).bind fun (key, rest) =>
      match skipInline rest with
      | '.' :: more => (keyPath? fuel more).map fun (keys, after) => (key :: keys, after)
      | after => some ([key], after)

mutual

def readValue : Nat → List Char → Option (Value × List Char)
  | 0, _ => none
  | fuel + 1, text =>
    match text with
    | '"' :: _ | '\'' :: _ => (readString text).map fun (s, rest) => (.string s, rest)
    | '[' :: rest => (readItems fuel rest).map fun (vs, after) => (.array vs, after)
    | '{' :: rest =>
      match skipInline rest with
      | '}' :: after => some (.table [], after)
      | _ => (readInline fuel [] rest).map fun (es, after) => (.table (Item.toEntries es), after)
    | _ =>
      let (word, rest) := splitWord text
      (word? word).map fun v => (v, rest)

/-- The rest of an array; a comma may follow the last item. -/
def readItems : Nat → List Char → Option (List Value × List Char)
  | 0, _ => none
  | fuel + 1, text =>
    (skipFiller? text.length text).bind fun start =>
      match start with
      | ']' :: after => some ([], after)
      | _ =>
        (readValue fuel start).bind fun (v, rest) =>
          (skipFiller? rest.length rest).bind fun next =>
            match next with
            | ',' :: more => (readItems fuel more).map fun (vs, after) => (v :: vs, after)
            | ']' :: after => some ([v], after)
            | _ => none

/-- The rest of a table on one line; no comma follows the last entry. -/
def readInline : Nat → Items → List Char → Option (Items × List Char)
  | 0, _, _ => none
  | fuel + 1, entries, text =>
    (keyPath? (text.length + 1) text).bind fun (path, afterKey) =>
      match afterKey with
      | '=' :: more =>
        (readValue fuel (skipInline more)).bind fun (v, rest) =>
          (addKey path v ⟨false, false, entries⟩).bind fun filled =>
            match skipInline rest with
            | ',' :: next => readInline fuel filled next
            | '}' :: after => some (filled, after)
            | _ => none
      | _ => none

end

/-- The rest after the end of a statement's line. -/
def lineEnd? (text : List Char) : Option (List Char) :=
  (skipComment? (skipInline text)).bind fun rest =>
    match rest with
    | [] => some []
    | _ => newline? rest

inductive Statement where
  | table (path : List String)
  | element (path : List String)
  | entry (path : List String) (value : Value)

/-- A statement without its line ending. -/
def statement? (text : List Char) : Option (Statement × List Char) :=
  match text with
  | '[' :: '[' :: rest =>
    (keyPath? (rest.length + 1) rest).bind fun (path, after) =>
      match after with
      | ']' :: ']' :: more => some (.element path, more)
      | _ => none
  | '[' :: rest =>
    (keyPath? (rest.length + 1) rest).bind fun (path, after) =>
      match after with
      | ']' :: more => some (.table path, more)
      | _ => none
  | _ =>
    (keyPath? (text.length + 1) text).bind fun (path, after) =>
      match after with
      | '=' :: more =>
        let value := skipInline more
        (readValue (value.length + 1) value).map fun (v, rest) => (.entry path v, rest)
      | _ => none

/-- Reads statements into the items; `current` is the path of the last header. -/
def readStatements : Nat → List String → Items → List Char → Option Items
  | 0, _, _, _ => none
  | fuel + 1, current, entries, text =>
    (skipFiller? text.length text).bind fun start =>
      match start with
      | [] => some entries
      | _ =>
        (statement? start).bind fun (s, rest) =>
          (lineEnd? rest).bind fun next =>
            match s with
            | .table path =>
              (openTable path entries).bind fun es => readStatements fuel path es next
            | .element path =>
              (openElement path entries).bind fun es => readStatements fuel path es next
            | .entry path v =>
              (updateAt false current (addKey path v) ⟨false, false, entries⟩).bind fun es =>
                readStatements fuel current es next

def dropMark (text : List Char) : List Char :=
  match text with
  | c :: rest => if c.toNat = 0xFEFF then rest else text
  | [] => []

/-- The table that a document writes. -/
def parse? (text : String) : Option Table :=
  let chars := dropMark text.toList
  (readStatements (chars.length + 1) [] [] chars).map Item.toEntries

end ScriptSurvey.Toml
