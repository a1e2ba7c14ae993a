import ScriptSurvey.Regex.CharSet

/-!
# Patterns

The tree of a regular expression, and the conditions on places between characters.
-/
namespace ScriptSurvey.Regex

/-- Where a place lies among words. The halves look at one neighbour only. -/
inductive WordPlace where
  | boundary
  | inside
  | start
  | stop
  | beforeHalf
  | afterHalf
  deriving DecidableEq, Repr, Inhabited

/-- Whether the condition holds between two neighbours that are parts of words or not. -/
def WordPlace.holds (before after : Bool) : WordPlace → Bool
  | boundary => before != after
  | inside => before == after
  | start => !before && after
  | stop => before && !after
  | beforeHalf => !before
  | afterHalf => !after

/-- A condition on a place in the text. -/
inductive Assertion where
  | textStart
  | textEnd
  | lineStart
  | lineEnd
  /-- The line conditions where a carriage return ends a line too. -/
  | returnStart
  | returnEnd
  | word (place : WordPlace) (unicode : Bool)
  deriving DecidableEq, Repr, Inhabited

namespace Assertion

/-- Without Unicode only ASCII letters, digits and the underscore are parts of words. -/
def isWord (unicode : Bool) (c : Option Char) : Bool :=
  c.any fun c => if unicode then Text.isWordChar c else c.isAlphanum || c == '_'

/-- Whether the condition holds between two neighbours; a missing one is an end of the text. -/
def holds (before after : Option Char) : Assertion → Bool
  | textStart => before.isNone
  | textEnd => after.isNone
  | lineStart => before.isNone || before == some '\n'
  | lineEnd => after.isNone || after == some '\n'
  | returnStart => before.isNone || before == some '\n'
      || (before == some '\r' && after != some '\n')
  | returnEnd => after.isNone || after == some '\r'
      || (after == some '\n' && before != some '\r')
  | word place unicode => place.holds (isWord unicode before) (isWord unicode after)

end Assertion

/-- A repetition tries more rounds first when it is greedy. -/
inductive Pattern where
  | empty
  | chars (set : CharSet)
  | assertion (condition : Assertion)
  | concat (a b : Pattern)
  | alternate (a b : Pattern)
  | repetition (body : Pattern) (least : Nat) (most : Option Nat) (greedy : Bool)
  deriving DecidableEq, Repr, Inhabited

namespace Pattern

/-- The pattern may match without a character. -/
def isNullable : Pattern → Bool
  | empty | assertion _ => true
  | chars _ => false
  | concat a b => a.isNullable && b.isNullable
  | alternate a b => a.isNullable || b.isNullable
  | repetition body least _ _ => least == 0 || body.isNullable

def ofSequence (items : List Pattern) : Pattern := items.foldr concat empty

end Pattern

end ScriptSurvey.Regex
