import ScriptSurvey.FileSystem
import ScriptSurvey.Ignore.Glob
import ScriptSurvey.Text.Lines
import ScriptSurvey.Text.WordTable

/-!
# Ignore files

An ignore file lists globs, of which the last one that matches decides. Directories may hold
several ignore files; the nearest directory with an opinion decides, and the plain ignore file is
stronger than those of version control.
-/
namespace ScriptSurvey.Ignore

structure Rule where
  tokens : List Token
  negated : Bool
  onlyDir : Bool

inductive Verdict where
  | ignored
  | included
  deriving DecidableEq, Repr

/-- The line without blanks at its end, unless a backslash keeps them. -/
def trimLine (line : List Char) : List Char :=
  if [' ', '\\'].isPrefixOf line.reverse then line
  else (line.reverse.dropWhile Text.isBlank).reverse

/-- The text of a glob that has a separator matches from the directory on, any other one at every
depth. -/
def anchored (absolute : Bool) (text : List Char) : List Char :=
  let placed :=
    if absolute || text.contains '/' || text == ['*', '*'] then text
    else ['*', '*', '/'] ++ text
  if ['*', '*', '/'].isPrefixOf placed.reverse then placed ++ ['/', '*'] else placed

/-- The rule that a line writes; a blank or broken one writes none. -/
def parseLine? (line : List Char) : Option Rule :=
  let line := trimLine line
  if line.isEmpty || line.head? == some '#' then none
  else
    let (negated, absolute, body) := match line with
      | '\\' :: '!' :: rest => (false, false, '!' :: rest)
      | '\\' :: '#' :: rest => (false, false, '#' :: rest)
      | '!' :: '/' :: rest => (true, true, rest)
      | '!' :: rest => (true, false, rest)
      | '/' :: rest => (false, true, rest)
      | _ => (false, false, line)
    let (onlyDir, body) := match body.reverse with
      | '/' :: '\\' :: rest => (true, rest.reverse)
      | '/' :: rest => (true, rest.reverse)
      | _ => (false, body)
    (parseTokens? (String.ofList (anchored absolute body))).map fun ts => ⟨ts, negated, onlyDir⟩

def dropMark (text : List Char) : List Char := text.dropWhile fun c => c.toNat = 0xFEFF

/-- The lines up to the first one that is not UTF-8. -/
def readableLines (bytes : List UInt8) : List (List Char) :=
  let pieces := (Text.pieces 10 bytes).map fun l => String.fromUTF8? (ByteArray.mk l.toArray)
  let readable := (pieces.takeWhile Option.isSome).filterMap id
  let cut := if readable.length < pieces.length then [""] else []
  Text.lines ("\n".intercalate (readable ++ cut)).toList

/-- The rules of an ignore file. A byte-order mark in front of the first line is passed over. -/
def parseRules (bytes : List UInt8) : List Rule :=
  match readableLines bytes with
  | [] => []
  | first :: rest => (dropMark first :: rest).filterMap parseLine?

def Rule.applies (text : List UInt8) (isDir : Bool) (rule : Rule) : Bool :=
  (!rule.onlyDir || isDir) && matchBytes rule.tokens text

/-- What the last matching rule says of a path below the directory of the rules. -/
def verdict? (rules : List Rule) (names : List String) (isDir : Bool) : Option Verdict :=
  let text := ("/".intercalate names).toUTF8.toList
  (rules.reverse.find? (·.applies text isDir)).map fun r =>
    if r.negated then .included else .ignored

/-- The rules of one directory; `depth` is the number of names of its path. -/
structure Level where
  depth : Nat
  plain : List Rule
  tracked : List Rule
  excluded : List Rule

def rulesIn (entry : Option Entry) : List Rule :=
  match entry with
  | some (.file f) => parseRules f.bytes.toList
  | _ => []

def Level.of (depth : Nat) (dir : Entry) : Level :=
  { depth := depth
    plain := rulesIn (dir.child? ".ignore")
    tracked := rulesIn (dir.child? ".gitignore")
    excluded := rulesIn (dir.descend? [".git", "info", "exclude"]) }

/-- What the levels, the nearest first, say of a path. -/
def judge? (levels : List Level) (names : List String) (isDir : Bool) : Option Verdict :=
  let ask (rules : Level → List Rule) : Option Verdict :=
    levels.findSome? fun l => verdict? (rules l) (names.drop l.depth) isDir
  (ask Level.plain).or ((ask Level.tracked).or (ask Level.excluded))

def isHidden (name : String) : Bool := name.startsWith "."

/-- The walk passes over ignored entries, and over hidden ones unless a rule includes them. -/
def isSkipped (levels : List Level) (names : List String) (name : String) (isDir : Bool) : Bool :=
  match judge? levels names isDir with
  | some .ignored => true
  | some .included => false
  | none => isHidden name

end ScriptSurvey.Ignore
