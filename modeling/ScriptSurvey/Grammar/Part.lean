import ScriptSurvey.Syntax.Preorder

/-!
# Parts of a text

Reading a text by a grammar gives labelled parts with the byte offsets of their ends. Together with
the bytes of the text they are a syntax tree.
-/
namespace ScriptSurvey.Grammar

open Syntax (Node Source)

inductive Part where
  | mk (label : String) (named : Bool) (field : String) (start stop : Nat) (inside : List Part)
  deriving Repr

namespace Part

def leaf (label : String) (named : Bool) (start stop : Nat) : Part :=
  ⟨label, named, "", start, stop, []⟩

def label : Part → String
  | ⟨label, _, _, _, _, _⟩ => label

def start : Part → Nat
  | ⟨_, _, _, start, _, _⟩ => start

def stop : Part → Nat
  | ⟨_, _, _, _, stop, _⟩ => stop

/-- A comment may stand between any two parts and plays no role there. -/
def isComment (part : Part) : Bool := part.label == "comment"

def withField (field : String) : Part → Part
  | ⟨label, named, _, start, stop, inside⟩ => ⟨label, named, field, start, stop, inside⟩

/-- A named part that reaches from the first to the last of the parts inside. -/
def around (label : String) (inside : List Part) : Part :=
  ⟨label, true, "", (inside.head?.map start).getD 0, (inside.getLast?.map stop).getD 0, inside⟩

mutual

def toNode (source : Source) : Part → Node
  | ⟨label, named, field, start, stop, inside⟩ =>
    { label := label, named := named, missing := false, silent := false, field := field
      text := source.text start stop, startRow := source.row start, endRow := source.row stop
      children := toNodes source inside }

def toNodes (source : Source) : List Part → List Node
  | [] => []
  | part :: rest => toNode source part :: toNodes source rest

end

end Part

end ScriptSurvey.Grammar
