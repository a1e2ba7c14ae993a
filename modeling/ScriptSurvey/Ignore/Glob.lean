/-!
# Globs of ignore files

These globs match the bytes of a path relative to the directory of the ignore file. `?`, `*` and
`[...]` stand for bytes, of which the first two do not match a separator; braces list alternatives;
and `**` stands for whole components. An opening bracket that is never closed stands for itself.
-/
namespace ScriptSurvey.Ignore

inductive Token where
  | literal (c : Char)
  | any
  | sequence
  | leadingComponents
  | innerComponents
  | trailingComponents
  | class (negated : Bool) (ranges : List (Char × Char))
  | alternatives (branches : List (List Token))
  deriving Repr, Inhabited

def separator : UInt8 := 47

/-- What is left after any number of bytes. -/
def allRests : List UInt8 → List (List UInt8)
  | [] => [[]]
  | b :: rest => (b :: rest) :: allRests rest

/-- What is left after any number of bytes that are no separators. -/
def nameRests : List UInt8 → List (List UInt8)
  | [] => [[]]
  | b :: rest => (b :: rest) :: if b = separator then [] else nameRests rest

/-- What is left after each separator. -/
def afterSeparators : List UInt8 → List (List UInt8)
  | [] => []
  | b :: rest => if b = separator then rest :: afterSeparators rest else afterSeparators rest

def charBytes (c : Char) : List UInt8 := (String.singleton c).toUTF8.toList

/-- The bytes that a range of characters lists: those of its ends, and those between the last byte
of the first and the first byte of the last. -/
def rangeHas (b : UInt8) (range : Char × Char) : Bool :=
  let low := charBytes range.1
  let high := charBytes range.2
  low.contains b || (range.1 != range.2 && high.contains b) ||
    match low.getLast?, high.head? with
    | some x, some y => range.1 != range.2 && x ≤ b && b ≤ y
    | _, _ => false

mutual

/-- All ways to go on after the token has matched at the front. -/
def tokenRests : Token → List UInt8 → List (List UInt8)
  | .literal c, text =>
    let bs := charBytes c
    if bs.isPrefixOf text then [text.drop bs.length] else []
  | .any, text =>
    match text with
    | b :: rest => if b = separator then [] else [rest]
    | [] => []
  | .sequence, text => nameRests text
  | .leadingComponents, text => text :: afterSeparators text
  | .innerComponents, text =>
    match text with
    | b :: rest => if b = separator then rest :: afterSeparators rest else []
    | [] => []
  | .trailingComponents, text =>
    match text with
    | b :: rest => if b = separator then allRests rest else []
    | [] => []
  | .class negated ranges, text =>
    match text with
    | b :: rest => if ranges.any (rangeHas b) != negated then [rest] else []
    | [] => []
  | .alternatives [], text => [text]
  | .alternatives (b :: bs), text => branchRests (b :: bs) text

/-- All ways to go on after the tokens have matched one after the other. -/
def tokensRests : List Token → List UInt8 → List (List UInt8)
  | [], text => [text]
  | t :: rest, text => ((tokenRests t text).flatMap (tokensRests rest)).eraseDups

def branchRests : List (List Token) → List UInt8 → List (List UInt8)
  | [], _ => []
  | ts :: rest, text => tokensRests ts text ++ branchRests rest text

end

/-- A glob that is nothing but `**` matches everything. -/
def matchBytes (tokens : List Token) (text : List UInt8) : Bool :=
  match tokens with
  | [.leadingComponents] => true
  | _ => (tokensRests tokens text).any (·.isEmpty)

/-- Alternatives that hold nothing are left out, so that a group may have none. -/
def Token.group (branches : List (List Token)) : Token :=
  let isBlank : Token → Bool
    | .alternatives [] => true
    | _ => false
  .alternatives (branches.filter fun ts => !ts.all isBlank)

/-- Why an opening bracket starts no class. -/
inductive ClassFault where
  | unclosed
  | emptyRange
  deriving DecidableEq, Repr

/-- Reads the ranges of a class up to its closing bracket. `ranges` is in reverse. -/
def classRanges (ranges : List (Char × Char)) (first open_ : Bool) :
    List Char → Except ClassFault (List (Char × Char) × List Char)
  | [] => .error .unclosed
  | c :: rest =>
    if c == ']' && !first then
      .ok ((if open_ then ('-', '-') :: ranges else ranges).reverse, rest)
    else if c == '-' && !first && !open_ then classRanges ranges false true rest
    else if open_ then
      match ranges with
      | (low, _) :: others =>
        if c < low then .error .emptyRange else classRanges ((low, c) :: others) false false rest
      | [] => .error .emptyRange
    else classRanges ((c, c) :: ranges) false false rest

def readClass (text : List Char) : Except ClassFault (Token × List Char) :=
  let (negated, body) := match text with
    | '!' :: rest | '^' :: rest => (true, rest)
    | _ => (false, text)
  (classRanges [] true false body).map fun (ranges, rest) => (.class negated ranges, rest)

/-- Adds a run of two stars after tokens in reverse. It is more than two single stars only where it
stands for whole components. -/
def readStars (nested : Bool) (before : Option Char) (tokens : List Token) (text : List Char) :
    List Token × List Char :=
  let plain := (.sequence :: .sequence :: tokens, text)
  if tokens.isEmpty then
    match text with
    | [] => ([.leadingComponents], [])
    | '/' :: rest => ([.leadingComponents], rest)
    | _ => plain
  else if before != some '/' && !(nested && (before == some ',' || before == some '\x7b')) then plain
  else
    let close (suffix : Bool) (rest : List Char) : List Token × List Char :=
      match tokens with
      | .leadingComponents :: _ => (tokens, rest)
      | .trailingComponents :: _ => (tokens, rest)
      | _ :: others => ((if suffix then .trailingComponents else .innerComponents) :: others, rest)
      | [] => (tokens, rest)
    match text with
    | [] => close true []
    | '/' :: rest => close false rest
    | c :: _ => if nested && (c == ',' || c == '\x7d') then close true text else plain

/-- What has been read: the finished alternatives, whether brackets stand for themselves from here
on, and the text that is left. -/
structure Reading where
  branches : List (List Token)
  plainBrackets : Bool
  rest : List Char

/-- Reads tokens up to the end or, inside braces, up to a closing brace. `branches` holds the
finished alternatives and `tokens` the current one, both in reverse. -/
def readTokens : Nat → Bool → Bool → Option Char → List (List Token) → List Token → List Char →
    Option Reading
  | 0, _, _, _, _, _, _ => none
  | fuel + 1, nested, plain, before, branches, tokens, text =>
    match text with
    | [] => if nested then none else some ⟨[tokens.reverse], plain, []⟩
    | c :: rest =>
      let go := readTokens fuel nested plain (some c) branches
      if c == '?' then go (.any :: tokens) rest
      else if c == '*' then
        match rest with
        | '*' :: more =>
          let (ts, after) := readStars nested before tokens more
          let last := if after.length < more.length then some '/' else some '*'
          readTokens fuel nested plain last branches ts after
        | _ => go (.sequence :: tokens) rest
      else if c == '[' && !plain then
        match readClass rest with
        | .ok (t, after) => readTokens fuel nested plain (some ']') branches (t :: tokens) after
        | .error .unclosed =>
          readTokens fuel nested true (some c) branches (.literal c :: tokens) rest
        | .error .emptyRange => none
      else if c == '\x7b' then
        (readTokens fuel true plain (some c) [] [] rest).bind fun inner =>
          readTokens fuel nested inner.plainBrackets (some '\x7d') branches
            (.group inner.branches :: tokens) inner.rest
      else if c == '\x7d' then
        if nested then some ⟨(tokens.reverse :: branches).reverse, plain, rest⟩ else none
      else if c == ',' && nested then
        readTokens fuel nested plain (some c) (tokens.reverse :: branches) [] rest
      else if c == '\\' then
        match rest with
        | d :: more => readTokens fuel nested plain (some d) branches (.literal d :: tokens) more
        | [] => none
      else go (.literal c :: tokens) rest

def parseTokens? (pattern : String) : Option (List Token) :=
  let text := pattern.toList
  match readTokens (text.length + 1) false false none [] [] text with
  | some ⟨[tokens], _, []⟩ => some tokens
  | _ => none

end ScriptSurvey.Ignore
