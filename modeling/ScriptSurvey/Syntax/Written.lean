import ScriptSurvey.Json.Value
import ScriptSurvey.Syntax.Preorder

/-!
# Written trees

A tree is written as one flat array with five items for each node in preorder: the label with marks
in front, the field, the offsets of both ends and the number of children.
-/
namespace ScriptSurvey.Syntax

open Json (Value)

namespace Entry

/-- Takes a mark off the front of a label. -/
def unmark (mark : Char) (label : List Char) : Bool × List Char :=
  match label with
  | c :: rest => if c = mark then (true, rest) else (false, label)
  | [] => (false, [])

/-- The entry of a node without its place. A tilde marks a silent node, a question mark a missing
one and an apostrophe an anonymous one. -/
def ofLabel (written field : String) (start stop count : Nat) : Entry :=
  let (silent, rest) := unmark '~' written.toList
  let (missing, rest) := unmark '?' rest
  let (anonymous, rest) := unmark '\'' rest
  ⟨String.ofList rest, !anonymous, missing, silent, field, start, stop, count⟩

/-- The entries that an array writes; none when it writes something else. -/
def ofItems? : List Value → Option (List Entry)
  | [] => some []
  | .string (some label) :: .string (some field) :: .number start :: .number stop
      :: .number count :: rest =>
    match start.natural?, stop.natural?, count.natural?, ofItems? rest with
    | some start, some stop, some count, some entries =>
      some (ofLabel label field start stop count :: entries)
    | _, _, _, _ => none
  | _ => none

end Entry

/-- The tree of a text that an array writes. -/
def ofWritten? (bytes : ByteArray) (written : Value) : Option Node :=
  match written with
  | .array items => (Entry.ofItems? items).bind (ofPreorder? (Source.ofBytes bytes))
  | _ => none

end ScriptSurvey.Syntax
