import ScriptSurvey.Grammar.Part
import ScriptSurvey.Text.WordTable

/-!
# Forms of text

A form tells which texts it fits and which parts they have. Alternatives are tried in order and the
first that fits is taken, so a form fits a text in at most one way. `Form.fit` is bounded by a depth
that it spends on every step into a form.
-/
namespace ScriptSurvey.Grammar

/-- How many characters of a text a lexeme takes; zero when the text does not begin with it. -/
abbrev Scan := List Char → Nat

/-- Forms over the names `σ` of other forms. -/
inductive Form (σ : Type) where
  | nothing
  /-- A lexeme; a loose one may have blanks and comments in front. -/
  | lexeme (label : String) (named loose : Bool) (scan : Scan)
  | seq (first second : Form σ)
  | choice (first second : Form σ)
  | many (item : Form σ)
  /-- Fits where the form does not, and takes nothing. -/
  | absent (form : Form σ)
  | field (name : String) (form : Form σ)
  | node (label : String) (form : Form σ)
  /-- Goes on after a part that is done: the part becomes the first one, under a field, of a node. -/
  | wrap (label field : String) (form : Form σ)
  | named (name : σ)
  /-- Fits after a part with one of the labels, and takes nothing. -/
  | after (labels : List String)
  /-- Fits at the end of a line, of a block and of the text, and takes nothing. -/
  | lineEnd
  /-- Fits where the next lexeme stands on the same line, and takes nothing. -/
  | sameLine

namespace Form

variable {σ : Type}

instance : Append (Form σ) := ⟨seq⟩

instance : OrElse (Form σ) := ⟨fun a b => choice a (b ())⟩

instance : Inhabited (Form σ) := ⟨nothing⟩

def maybe (form : Form σ) : Form σ := form <|> nothing

/-- Items with a mark between any two of them. -/
def separated (mark item : Form σ) : Form σ := item ++ many (mark ++ item)

end Form

/-- A place in a text. `done` holds the parts read so far in the open node, the latest first. -/
structure Cursor where
  done : List Part
  rest : List Char
  offset : Nat

namespace Cursor

def byteLength (text : List Char) : Nat := text.foldr (fun c size => c.utf8Size + size) 0

def advance (c : Cursor) (count : Nat) : Cursor :=
  ⟨c.done, c.rest.drop count, c.offset + byteLength (c.rest.take count)⟩

/-- Reads a leaf of so many characters. -/
def takeLeaf (c : Cursor) (label : String) (named : Bool) (count : Nat) : Cursor :=
  let after := c.advance count
  { after with done := Part.leaf label named c.offset after.offset :: c.done }

def isBlank (ch : Char) : Bool :=
  Text.isBlank ch || ch == '\ufeff' || ch == '\u200b' || ch == '\u2060'

/-- The length of a comment up to its closing mark; none when it is not closed. -/
def blockCommentRest? : List Char → Option Nat
  | '*' :: '/' :: _ => some 2
  | _ :: rest => (blockCommentRest? rest).map (· + 1)
  | [] => none

def commentLength (text : List Char) : Nat :=
  match text with
  | '/' :: '/' :: rest => 2 + (rest.takeWhile fun ch => ch != '\n' && ch != '\r').length
  | '/' :: '*' :: rest => ((blockCommentRest? rest).map (· + 2)).getD 0
  | _ => 0

/-- Passes blanks and comments; the comments are parts of the open node. -/
def skipLoose (fuel : Nat) (c : Cursor) : Cursor :=
  let next := c.advance (c.rest.takeWhile isBlank).length
  match fuel with
  | 0 => next
  | fuel + 1 =>
    match commentLength next.rest with
    | 0 => next
    | count => (next.takeLeaf "comment" true count).skipLoose fuel

/-- The place of the next lexeme. -/
def skipped (c : Cursor) : Cursor := c.skipLoose c.rest.length

/-- A line ends in front of the next lexeme. -/
def breaksLine (c : Cursor) : Bool :=
  (c.rest.take (c.rest.length - c.skipped.rest.length)).contains '\n'

def atLineEnd (c : Cursor) : Bool :=
  c.breaksLine || (c.skipped.rest.head?.map (· == '}')).getD true

/-- The place with other parts done. -/
def holding (c : Cursor) (done : List Part) : Cursor := { c with done := done }

/-- Closes a node over the parts done; comments in front of it stay outside. -/
def close (c : Cursor) (label : String) (outer : List Part) : Cursor :=
  let parts := c.done.reverse
  let inside := parts.dropWhile Part.isComment
  c.holding (Part.around label inside :: (parts.takeWhile Part.isComment).reverse ++ outer)

end Cursor

namespace Form

variable {σ : Type}

/-- The place after the text that the form fits, if it fits. -/
def fit (grammar : σ → Form σ) : Nat → Form σ → Cursor → Option Cursor
  | 0, _, _ => none
  | fuel + 1, form, c =>
    match form with
    | nothing => some c
    | lexeme label isNamed loose scan =>
      let c := if loose then c.skipped else c
      match scan c.rest with
      | 0 => none
      | count => some (c.takeLeaf label isNamed count)
    | seq first second => (fit grammar fuel first c).bind (fit grammar fuel second)
    | choice first second =>
      match fit grammar fuel first c with
      | some next => some next
      | none => fit grammar fuel second c
    | many item =>
      match fit grammar fuel item c with
      | none => some c
      | some next => if next.offset ≤ c.offset then some next else fit grammar fuel (many item) next
    | absent form =>
      match fit grammar fuel form c with
      | some _ => none
      | none => some c
    | field name form =>
      (fit grammar fuel form (c.holding [])).map fun next =>
        next.holding ((next.done.map fun p => if p.isComment then p else p.withField name) ++ c.done)
    | node label form => (fit grammar fuel form (c.holding [])).map (·.close label c.done)
    | wrap label name form =>
      match c.done with
      | left :: outer =>
        (fit grammar fuel form (c.holding [left.withField name])).map (·.close label outer)
      | [] => none
    | named name => fit grammar fuel (grammar name) c
    | after labels =>
      if labels.contains ((c.done.head?.map Part.label).getD "") then some c else none
    | lineEnd => if c.atLineEnd then some c else none
    | sameLine => if c.breaksLine then none else some c

end Form

end ScriptSurvey.Grammar
