import ScriptSurvey.Regex.Escape
import ScriptSurvey.Text.Search

/-!
# Bracketed classes

Between brackets stand characters, ranges, classes and further brackets, joined to a set. Doubled
signs take the intersection, the difference or the symmetric difference of what is on both sides.
-/
namespace ScriptSurvey.Regex.Bracket

inductive Operator where
  | inter
  | minus
  | exactlyOne
  deriving DecidableEq, Repr, Inhabited

def Operator.apply (op : Operator) (a b : CharSet) : CharSet :=
  match op with
  | inter => .inter a b
  | minus => .minus a b
  | exactlyOne => .exactlyOne a b

def foldCase (flags : Flags) (set : CharSet) : CharSet :=
  if flags.ignoreCase then .folded set flags.unicode else set

/-- A set at its closing bracket. A complement is a set of characters for full classes only. -/
def close? (flags : Flags) (negated : Bool) (set : CharSet) : Option CharSet :=
  if negated then
    if flags.unicode then some (.complement (foldCase flags set)) else none
  else some (foldCase flags set)

/-- The left side of an operator that waits for its right side. -/
abbrev Pending := Option (Operator × CharSet)

def settle (flags : Flags) (pending : Pending) (set : CharSet) : CharSet :=
  match pending with
  | none => set
  | some (op, left) => op.apply (foldCase flags left) (foldCase flags set)

/-- A named class such as the one for letters, read after its opening bracket. -/
def namedClass? (flags : Flags) (text : List Char) : Option (CharSet × List Char) :=
  match text with
  | ':' :: rest =>
    let (negated, rest) := match rest with
      | '^' :: more => (true, more)
      | _ => (false, rest)
    match Text.cutAt ':' rest with
    | some (name, ']' :: after) =>
      (CharSet.ofClassName? (String.ofList name)).bind fun set =>
        (close? flags negated set).map fun s => (s, after)
    | _ => none
  | _ => none

/-- Without Unicode a class is one of bytes, so its characters are ASCII. -/
def isMember (flags : Flags) : Piece → Bool
  | .literal c => flags.unicode || c.toNat < 128
  | _ => true

/-- One item; a range takes two. -/
def item? (flags : Flags) (text : List Char) : Option (Piece × List Char) :=
  let read := match text with
    | [] => none
    | '\\' :: rest => escape? flags rest
    | c :: rest => some (.literal c, rest)
  read.filter fun (piece, _) => isMember flags piece

def pieceSet? : Piece → Option CharSet
  | .literal c => some (.single c)
  | .set s => some s
  | .assertion _ => none

/-- The character after a dash lets the dash stand for itself. -/
def isPlainDash (flags : Flags) (afterDash : List Char) : Bool :=
  match skipFiller flags afterDash with
  | ']' :: _ | '-' :: _ => true
  | _ => false

/-- Reads an item or a range. -/
def range? (flags : Flags) (text : List Char) : Option (CharSet × List Char) := do
  let (first, rest) ← item? flags text
  match skipFiller flags rest with
  | [] => none
  | '-' :: afterDash =>
    if isPlainDash flags afterDash then
      return (← pieceSet? first, '-' :: afterDash)
    else
      let (last, after) ← item? flags (skipFiller flags afterDash)
      match first, last with
      | .literal a, .literal b => if a ≤ b then return (.range a b, after) else none
      | _, _ => none
  | after => return (← pieceSet? first, after)

/-- Dashes at the start, and a closing bracket that comes first, stand for themselves. -/
def leading (flags : Flags) (set : CharSet) : Nat → List Char → CharSet × List Char
  | 0, text => (set, text)
  | fuel + 1, text =>
    match text with
    | '-' :: rest => leading flags (.union set (.single '-')) fuel (skipFiller flags rest)
    | ']' :: rest =>
      if set == .none then (.single ']', skipFiller flags rest) else (set, text)
    | _ => (set, text)

/-- Reads a class after its opening bracket. -/
def opening (flags : Flags) (text : List Char) : Bool × CharSet × List Char :=
  let text := skipFiller flags text
  let (negated, text) := match text with
    | '^' :: rest => (true, skipFiller flags rest)
    | _ => (false, text)
  (negated, leading flags .none (text.length + 1) text)

/-- Reads the items of a class up to its closing bracket; every step uses up characters. -/
def body (flags : Flags) : Nat → Bool → Pending → CharSet → List Char →
    Option (CharSet × List Char)
  | 0, _, _, _, _ => none
  | fuel + 1, negated, pending, set, text =>
    match skipFiller flags text with
    | [] => none
    | ']' :: rest => (close? flags negated (settle flags pending set)).map (·, rest)
    | '[' :: rest =>
      match namedClass? flags rest with
      | some (named, after) => body flags fuel negated pending (.union set named) after
      | none =>
        let (innerNegated, first, start) := opening flags rest
        (body flags fuel innerNegated none first start).bind fun (inner, after) =>
          body flags fuel negated pending (.union set inner) after
    | '&' :: '&' :: rest =>
      body flags fuel negated (some (.inter, settle flags pending set)) .none rest
    | '-' :: '-' :: rest =>
      body flags fuel negated (some (.minus, settle flags pending set)) .none rest
    | '~' :: '~' :: rest =>
      body flags fuel negated (some (.exactlyOne, settle flags pending set)) .none rest
    | rest =>
      (range? flags rest).bind fun (item, after) =>
        body flags fuel negated pending (.union set item) after

/-- Reads a class after its opening bracket. -/
def read? (flags : Flags) (text : List Char) : Option (CharSet × List Char) :=
  let (negated, first, start) := opening flags text
  body flags (text.length + 1) negated none first start

end ScriptSurvey.Regex.Bracket
