import ScriptSurvey.Syntax.Node

/-!
# Trees from preorder lists

A tree is stored as the list of its nodes in preorder, each with the number of its children.
Reading such a list backwards, a node takes its children from the trees already built.
-/
namespace ScriptSurvey.Syntax

/-- A node without its children, which are counted; `start` and `stop` are byte offsets. -/
structure Entry where
  label : String
  named : Bool
  missing : Bool
  silent : Bool
  field : String
  start : Nat
  stop : Nat
  count : Nat
  deriving Repr, Inhabited

/-- The bytes of a file with the offsets of their line feeds. -/
structure Source where
  bytes : ByteArray
  feeds : List Nat

namespace Source

def ofBytes (bytes : ByteArray) : Source :=
  ⟨bytes, (List.range bytes.size).filter fun i => bytes[i]? == some 10⟩

/-- Number of line feeds before an offset. -/
def row (source : Source) (offset : Nat) : Nat := source.feeds.countP (· < offset)

/-- The text between two offsets; empty when it is not UTF-8. -/
def text (source : Source) (start stop : Nat) : String :=
  (String.fromUTF8? (source.bytes.extract start stop)).getD ""

end Source

/-- Joins an entry with its children, the first of the trees built from the entries after it. -/
def attach (source : Source) (entry : Entry) (built : List Node) : List Node :=
  { label := entry.label, named := entry.named, missing := entry.missing,
    silent := entry.silent, field := entry.field,
    text := source.text entry.start entry.stop,
    startRow := source.row entry.start, endRow := source.row entry.stop,
    children := built.take entry.count } :: built.drop entry.count

/-- The tree that the entries list in preorder. -/
def ofPreorder? (source : Source) (entries : List Entry) : Option Node :=
  match entries.foldr (attach source) [] with
  | [tree] => some tree
  | _ => none

end ScriptSurvey.Syntax
