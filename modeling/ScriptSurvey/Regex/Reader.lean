import ScriptSurvey.Regex.Bracket
import ScriptSurvey.Text.AlphanumericTable

/-!
# Reading patterns

The text of a regular expression is read into its tree, or refused. Flags that are set inside a
group hold to the end of the group, across its alternatives. Left out are the limits on patterns,
250 nested levels and 10 MB of compiled program: a pattern beyond them still compiles.
-/
namespace ScriptSurvey.Regex

/-- What reading depends on: the flags in force, the group names taken, and the rest of the text. -/
structure Cursor where
  flags : Flags
  names : List String
  rest : List Char
  deriving DecidableEq, Repr, Inhabited

namespace Cursor

def move (cursor : Cursor) (rest : List Char) : Cursor := { cursor with rest := rest }

def skip (cursor : Cursor) : Cursor := cursor.move (skipFiller cursor.flags cursor.rest)

end Cursor

/-- An item of a sequence; a change of flags is one but matches nothing. -/
inductive Item where
  | pattern (p : Pattern)
  | flagChange
  deriving DecidableEq, Repr, Inhabited

/-- The items of a sequence, the last one first. -/
def sequenceOf (items : List Item) : Pattern :=
  Pattern.ofSequence (items.reverse.filterMap fun
    | .pattern p => some p
    | .flagChange => none)

/-- Counts are limited to 32 bits. -/
def maxCount : Nat := Nat.pow 2 32 - 1

/-- A number with blanks around it. -/
def count? (flags : Flags) (text : List Char) : Option (Nat × List Char) :=
  let rec digits (value : Option Nat) : Nat → List Char → Option Nat × List Char
    | 0, text => (value, text)
    | fuel + 1, text =>
      match text with
      | c :: rest =>
        if c.isDigit then
          digits (some (10 * value.getD 0 + (c.toNat - '0'.toNat))) fuel (skipFiller flags rest)
        else (value, text)
      | [] => (value, text)
  let text := text.dropWhile Text.isBlank
  match digits none (text.length + 1) text with
  | (some n, rest) => if n ≤ maxCount then some (n, rest.dropWhile Text.isBlank) else none
  | (none, _) => none

/-- The bounds of a counted repetition, read after the opening brace. -/
def bounds? (flags : Flags) (text : List Char) : Option (Nat × Option Nat × List Char) := do
  let (least, rest) ← count? flags (skipFiller flags text)
  match rest with
  | '\x7d' :: after => return (least, some least, after)
  | ',' :: after =>
    match skipFiller flags after with
    | '\x7d' :: done => return (least, none, done)
    | more =>
      let (most, last) ← count? flags more
      match last with
      | '\x7d' :: done => if least ≤ most then return (least, some most, done) else none
      | _ => none
  | _ => none

/-- A question mark after a repetition turns its greed around. -/
def greed (flags : Flags) (text : List Char) : Bool × List Char :=
  match text with
  | '?' :: rest => (flags.swapGreed, rest)
  | _ => (!flags.swapGreed, text)

/-- Repeats the last item; there has to be one, and not a change of flags. -/
def repeatLast? (items : List Item) (least : Nat) (most : Option Nat) (greedy : Bool) :
    Option (List Item) :=
  match items with
  | .pattern p :: rest => some (.pattern (.repetition p least most greedy) :: rest)
  | _ => none

/-- Reads flag letters up to a colon or a closing parenthesis, which is left. No flag comes twice,
and a minus has flags after it. -/
def flagLetters? (flags : Flags) (value : Bool) (seen : List Char) :
    List Char → Option (Flags × List Char)
  | [] => none
  | c :: rest =>
    if c == ':' || c == ')' then
      if seen.head? == some '-' then none else some (flags, c :: rest)
    else if seen.contains c then none
    else if c == '-' then flagLetters? flags false (c :: seen) rest
    else (flags.set? c value).bind fun f => flagLetters? f value (c :: seen) rest

def isNameStart (c : Char) : Bool :=
  c == '_' || (Text.isAlphanumeric c && !Text.isDecimalDigit c)

def isNameChar (c : Char) : Bool :=
  c == '_' || c == '.' || c == '[' || c == ']' || Text.isAlphanumeric c

/-- Reads a group name that is not taken yet, with the mark that ends it. -/
def groupName? (names : List String) (text : List Char) : Option (String × List Char) :=
  match Text.cutAt '>' text with
  | some (first :: more, rest) =>
    let name := String.ofList (first :: more)
    if isNameStart first && more.all isNameChar && !names.contains name then some (name, rest)
    else none
  | _ => none

/-- How a parenthesis opens: a group, or a change of flags. -/
inductive Opening where
  | group (cursor : Cursor)
  | change (cursor : Cursor)
  deriving DecidableEq, Repr, Inhabited

/-- Reads what follows an opening parenthesis. Conditions on the text around are refused. -/
def opening? (cursor : Cursor) : Option Opening :=
  match cursor.rest with
  | '?' :: '=' :: _ | '?' :: '!' :: _ | '?' :: '<' :: '=' :: _ | '?' :: '<' :: '!' :: _ => none
  | '?' :: 'P' :: '<' :: rest | '?' :: '<' :: rest =>
    (groupName? cursor.names rest).map fun (name, after) =>
      .group { cursor with names := name :: cursor.names, rest := after }
  | '?' :: ')' :: _ => none
  | '?' :: rest =>
    (flagLetters? cursor.flags true [] rest).bind fun (flags, after) =>
      match after with
      | ':' :: more => some (.group { cursor with flags := flags, rest := more })
      | ')' :: more => some (.change { cursor with flags := flags, rest := more })
      | _ => none
  | _ => some (.group cursor)

def dot? (flags : Flags) : Option CharSet :=
  if !flags.unicode then none
  else if flags.dotAll then some .all
  else if flags.returnEndsLine then
    some (.complement (.union (.single '\n') (.single '\r')))
  else some (.complement (.single '\n'))

def lineStart (flags : Flags) : Assertion :=
  if !flags.multiLine then .textStart
  else if flags.returnEndsLine then .returnStart else .lineStart

def lineEnd (flags : Flags) : Assertion :=
  if !flags.multiLine then .textEnd
  else if flags.returnEndsLine then .returnEnd else .lineEnd

def piecePattern (flags : Flags) : Piece → Pattern
  | .literal c => .chars (Bracket.foldCase flags (.single c))
  | .set s => .chars s
  | .assertion a => .assertion a

/-- Reads one item that is neither a group nor a repetition. -/
def atom? (flags : Flags) : List Char → Option (Pattern × List Char)
  | [] => none
  | '\\' :: rest => (escape? flags rest).map fun (p, after) => (piecePattern flags p, after)
  | '[' :: rest => (Bracket.read? flags rest).map fun (s, after) => (.chars s, after)
  | '.' :: rest => (dot? flags).map fun s => (.chars s, rest)
  | '^' :: rest => some (.assertion (lineStart flags), rest)
  | '$' :: rest => some (.assertion (lineEnd flags), rest)
  | c :: rest => some (piecePattern flags (.literal c), rest)

/-- Joins a finished alternative to those before it. -/
def joinAlternatives (done : Option Pattern) (last : Pattern) : Pattern :=
  match done with
  | some p => .alternate p last
  | none => last

/-- Reads alternatives up to a closing parenthesis or the end of the text. Every step uses up
characters, so as many steps as characters, and one more, are enough. -/
def alternatives : Nat → Option Pattern → List Item → Cursor → Option (Pattern × Cursor)
  | 0, _, _, _ => none
  | fuel + 1, done, items, cursor =>
    let cursor := cursor.skip
    let finish := joinAlternatives done (sequenceOf items)
    let again (items : List Item) (rest : List Char) : Option (Pattern × Cursor) :=
      alternatives fuel done items (cursor.move rest)
    let repeated (least : Nat) (most : Option Nat) (rest : List Char) :
        Option (Pattern × Cursor) :=
      let (greedy, after) := greed cursor.flags rest
      (repeatLast? items least most greedy).bind fun items => again items after
    match cursor.rest with
    | [] | ')' :: _ => some (finish, cursor)
    | '|' :: rest => alternatives fuel (some finish) [] (cursor.move rest)
    | '*' :: rest => repeated 0 none rest
    | '+' :: rest => repeated 1 none rest
    | '?' :: rest => repeated 0 (some 1) rest
    | '\x7b' :: rest =>
      (bounds? cursor.flags rest).bind fun (least, most, after) =>
        repeated least most (skipFiller cursor.flags after)
    | '(' :: rest =>
      (opening? (cursor.move rest).skip).bind fun
        | .change inner => alternatives fuel done (.flagChange :: items) inner
        | .group inner =>
          (alternatives fuel none [] inner).bind fun (p, after) =>
            match after.rest with
            | ')' :: more =>
              alternatives fuel done (.pattern p :: items)
                { after with flags := cursor.flags, rest := more }
            | _ => none
    | text =>
      (atom? cursor.flags text).bind fun (p, after) => again (.pattern p :: items) after

/-- The tree of a pattern text; none when it is no pattern. -/
def Pattern.parse? (text : String) : Option Pattern :=
  let cursor : Cursor := ⟨Flags.initial, [], text.toList⟩
  match alternatives (cursor.rest.length + 1) none [] cursor with
  | some (p, after) => if after.rest.isEmpty then some p else none
  | none => none

end ScriptSurvey.Regex
