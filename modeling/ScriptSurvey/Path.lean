import ScriptSurvey.Text.Search

/-!
# Paths

A path is a sequence of names, anchored at the root or not. Repeated and trailing separators and
inner `.` names carry no meaning and are dropped on reading; a leading `.` of an unanchored path
and every `..` are kept. Equality and order go by names, so `a/b` sorts before `a-b`.
-/
namespace ScriptSurvey

structure Path where
  anchored : Bool
  names : List String
  deriving DecidableEq, Repr, Inhabited

namespace Path

/-- The path without a name. -/
def empty : Path := ⟨false, []⟩

def root : Path := ⟨true, []⟩

/-- The names between separators. An inner `.` is dropped, and a leading one when `anchored`. -/
def namesOf (anchored : Bool) (pieces : List String) : List String :=
  match pieces with
  | [] => []
  | first :: rest =>
    let kept := rest.filter fun n => n ≠ "" && n ≠ "."
    if first = "" || (anchored && first = ".") then kept else first :: kept

def ofString (text : String) : Path :=
  match text.toList with
  | '/' :: _ => ⟨true, namesOf true (Text.split text '/')⟩
  | _ => ⟨false, namesOf false (Text.split text '/')⟩

def toString (p : Path) : String :=
  (if p.anchored then "/" else "") ++ "/".intercalate p.names

instance : ToString Path := ⟨toString⟩

/-- All but the last name; none for a path without names. -/
def parent? (p : Path) : Option Path :=
  if p.names.isEmpty then none else some ⟨p.anchored, p.names.dropLast⟩

/-- The last name, unless it is `.` or `..`. -/
def fileName? (p : Path) : Option String :=
  match p.names.getLast? with
  | some n => if n = ".." || n = "." then none else some n
  | none => none

/-- Splits a file name at its last dot. A dot in front does not count as one. -/
def splitExtension (name : String) : String × Option String :=
  let reversed := name.toList.reverse
  let extension := reversed.takeWhile (· ≠ '.')
  match reversed.dropWhile (· ≠ '.') with
  | _ :: stem@(_ :: _) => (String.ofList stem.reverse, some (String.ofList extension.reverse))
  | _ => (name, none)

def extension? (p : Path) : Option String :=
  p.fileName?.bind fun n => (splitExtension n).2

/-- The file name with its extension replaced. -/
def withExtension (p : Path) (extension : String) : Path :=
  match p.fileName? with
  | some n => ⟨p.anchored, p.names.dropLast ++ [(splitExtension n).1 ++ "." ++ extension]⟩
  | none => p

/-- The path with a dot and an extension added to its text. An extension that holds a separator
makes several names. -/
def addExtension (p : Path) (extension : String) : Path :=
  if '/' ∈ extension.toList then ofString (p.toString ++ ("." ++ extension))
  else match p.names.getLast? with
    | some n => ⟨p.anchored, p.names.dropLast ++ [n ++ "." ++ extension]⟩
    | none => ⟨p.anchored, ["." ++ extension]⟩

/-- `q` seen from `p`; an anchored `q` stands for itself. -/
def join (p q : Path) : Path :=
  if q.anchored then q
  else if p.names.isEmpty && !p.anchored then q
  else ⟨p.anchored, p.names ++ q.names.filter (· ≠ ".")⟩

def child (p : Path) (name : String) : Path := ⟨p.anchored, p.names ++ [name]⟩

/-- The text `q` seen from the path text `p`, without any change to either. -/
def joinText (p q : String) : String :=
  if q.startsWith "/" then q else if p.endsWith "/" then p ++ q else p ++ "/" ++ q

/-- Every path starts with the empty one. -/
def startsWith (p scope : Path) : Bool :=
  scope == empty || (p.anchored == scope.anchored && scope.names.isPrefixOf p.names)

/-- The part of `p` below `base`. -/
def below? (base p : Path) : Option Path :=
  if base == empty then some p
  else if p.startsWith base then some ⟨false, p.names.drop base.names.length⟩
  else none

/-- `p` and its ancestors, the nearest first. -/
def ancestors (p : Path) : List Path :=
  (List.range (p.names.length + 1)).reverse.map fun n => ⟨p.anchored, p.names.take n⟩

/-- One step of `normalize`: `..` takes back the last name, or stays when there is none. -/
def normalizeStep (kept : List String) (name : String) : List String :=
  if name = "." then kept
  else if name = ".." then
    match kept with
    | [] => [".."]
    | _ => kept.dropLast
  else kept ++ [name]

/-- The path without `.` and with every `..` applied to the name before it. -/
def normalize (p : Path) : Path := ⟨p.anchored, p.names.foldl normalizeStep []⟩

/-- Rank of the kinds of names in the order of paths: `.` before `..` before all others. -/
def nameRank (n : String) : Nat := if n = "." then 0 else if n = ".." then 1 else 2

def compareName (a b : String) : Ordering :=
  (compare (nameRank a) (nameRank b)).then (compare a b)

def compareNames : List String → List String → Ordering
  | [], [] => .eq
  | [], _ :: _ => .lt
  | _ :: _, [] => .gt
  | a :: as, b :: bs => (compareName a b).then (compareNames as bs)

/-- Anchored paths come before the others, except that no path comes before the empty one. -/
def compare (p q : Path) : Ordering :=
  match p.anchored, q.anchored with
  | true, false => if q.names.isEmpty then .gt else .lt
  | false, true => if p.names.isEmpty then .lt else .gt
  | _, _ => compareNames p.names q.names

instance : Ord Path := ⟨compare⟩

end Path

end ScriptSurvey
