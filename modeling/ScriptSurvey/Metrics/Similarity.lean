import ScriptSurvey.Project
import ScriptSurvey.Scale
import ScriptSurvey.Text.Sorted

/-!
# Similarity

Two functions are similar when they agree in the count and names of their parameters, in being
asynchronous, in structure and in the calls they make. Each agreement has a weight out of 100.
-/
namespace ScriptSurvey.Similarity

open Syntax (FlowToken)

/-- The comparable shape of a function with a name. -/
structure Signature where
  name : String
  file : Path
  line : Nat
  params : List String
  isAsync : Bool
  flow : List FlowToken
  calls : List String
  deriving DecidableEq, Repr, Inhabited

namespace Signature

def of? (f : FunctionFacts) (file : Path) : Option Signature :=
  f.name.map fun _ => ⟨f.displayName, file, f.line, f.params, f.isAsync, f.flow, f.calls⟩

/-- The part of the name after the last dot. -/
def bareName (s : Signature) : String :=
  String.ofList (s.name.toList.reverse.takeWhile (· != '.')).reverse

end Signature

/-- Number of names in both lists. -/
def commonNames (a b : List String) : Nat := (a.eraseDups.filter b.contains).length

/-- Number of names in either list. -/
def allNames (a b : List String) : Nat := (a ++ b).eraseDups.length

section Scored

variable {α : Type} [Scale α]

/-- Common names over all names; two empty lists agree fully. -/
def overlap (a b : List String) : α :=
  if allNames a b = 0 then Scale.ofNat 1 else Scale.ratio (commonNames a b) (allNames a b)

/-- Number of tokens of `b` that find a partner in `a`. -/
def partners (a : List FlowToken) : List FlowToken → Nat
  | [] => 0
  | t :: rest => if a.contains t then partners (a.erase t) rest + 1 else partners a rest

/-- Partners over the longer length; two empty structures agree fully. -/
def tokenOverlap (a b : List FlowToken) : α :=
  let longer := max a.length b.length
  if longer = 0 then Scale.ofNat 1 else Scale.ratio (partners a b) longer

def weighted (part : α) (weight : Nat) : α := Scale.mul part (Scale.ofNat weight)

/-- The sum of the weighted agreements. -/
def agreement (a b : Signature) : α :=
  let zero : α := Scale.ofNat 0
  let counted :=
    if a.params.length = b.params.length then Scale.add zero (Scale.ofNat 30) else zero
  let named := Scale.add counted (weighted (overlap a.params b.params) 20)
  let timed := if a.isAsync = b.isAsync then Scale.add named (Scale.ofNat 10) else named
  let structured :=
    if a.flow = b.flow then Scale.add timed (Scale.ofNat 25)
    else Scale.add timed (weighted (tokenOverlap a.flow b.flow) 25)
  Scale.add structured (weighted (overlap a.calls b.calls) 15)

end Scored

/-- The score on a given scale. -/
def scoreOn (α : Type) [Scale α] (a b : Signature) : Nat := Scale.points (agreement a b : α)

def score (a b : Signature) : Nat := scoreOn Float a b

/-- Shorter structures are too common to compare. -/
def minTokens : Nat := 3

structure FunctionRef where
  name : String
  file : Path
  line : Nat
  deriving DecidableEq, Repr, Inhabited

def Signature.ref (s : Signature) : FunctionRef := ⟨s.name, s.file, s.line⟩

structure Pair where
  score : Nat
  first : FunctionRef
  second : FunctionRef
  deriving DecidableEq, Repr, Inhabited

structure Report where
  total : Nat
  threshold : Nat
  pairs : List Pair
  deriving DecidableEq, Repr, Inhabited

/-- The functions below `scope` that are compared. -/
def signatures (project : Project) (scope : Path) : List Signature :=
  ((project.inScope scope).filter fun s =>
    !FileRole.isGenerated (project.relative s.path).toString).flatMap fun s =>
      (s.functions.filterMap (Signature.of? · (project.relative s.path))).filter fun g =>
        minTokens ≤ g.flow.length

/-- Functions of one name in one file are versions of each other and are not compared. -/
def comparable (a b : Signature) : Bool := a.file != b.file || a.bareName != b.bareName

def pairOf? (threshold : Nat) (a b : Signature) : Option Pair :=
  if comparable a b then
    let s := score a b
    if threshold ≤ s then some ⟨s, a.ref, b.ref⟩ else none
  else none

/-- The pairs of each function with those after it. -/
def pairsFrom (threshold : Nat) : List Signature → List Pair
  | [] => []
  | a :: rest => rest.filterMap (pairOf? threshold a) ++ pairsFrom threshold rest

/-- Higher scores first, then by the places of the two functions. -/
def pairLe (x y : Pair) : Bool :=
  ((compare y.score x.score).then ((compare x.first.file y.first.file).then
    ((compare x.first.line y.first.line).then ((compare x.second.file y.second.file).then
      (compare x.second.line y.second.line))))).isLE

/-- All similar pairs below `scope`, in order. -/
def pairs (project : Project) (scope : Path) (threshold : Nat) : List Pair :=
  (pairsFrom threshold (signatures project scope)).mergeSort pairLe

def report (project : Project) (scope : Path) (threshold limit : Nat) : Report :=
  let all := pairs project scope threshold
  ⟨all.length, threshold, all.take limit⟩

end ScriptSurvey.Similarity
