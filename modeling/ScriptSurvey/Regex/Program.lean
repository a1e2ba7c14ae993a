import ScriptSurvey.Regex.Pattern

/-!
# Programs

A pattern is compiled to a list of instructions. Of two ways the first is preferred.
-/
namespace ScriptSurvey.Regex

inductive Instruction where
  | accept
  | consume (set : CharSet) (next : Nat)
  | check (condition : Assertion) (next : Nat)
  | split (preferred other : Nat)
  deriving DecidableEq, Repr, Inhabited

structure Program where
  code : Array Instruction
  entry : Nat
  deriving Repr, Inhabited

namespace Program

abbrev Code := Array Instruction

/-- Adds an instruction; the result tells its place. -/
def emit (code : Code) (i : Instruction) : Nat × Code := (code.size, code.push i)

/-- A choice between a body and going on, in the order of greed. -/
def choice (greedy : Bool) (body next : Nat) : Instruction :=
  if greedy then .split body next else .split next body

/-- A body that runs once or more. The choice after it is placed first and filled in last. -/
def emitLoop (body : Nat → Code → Nat × Code) (greedy : Bool) (next : Nat) (code : Code) :
    Nat × Code :=
  let loop := code.size
  let (entry, code) := body loop (code.push .accept)
  (entry, code.set! loop (choice greedy entry next))

/-- `count` bodies in a row, before `next`. -/
def emitCopies (body : Nat → Code → Nat × Code) (next : Nat) (code : Code) : Nat → Nat × Code
  | 0 => (next, code)
  | count + 1 =>
    let (after, code) := emitCopies body next code count
    body after code

/-- Up to `count` bodies in a row; every one may be left out with those after it. -/
def emitOptional (body : Nat → Code → Nat × Code) (greedy : Bool) (next : Nat) (code : Code) :
    Nat → Nat × Code
  | 0 => (next, code)
  | count + 1 =>
    let (after, code) := emitOptional body greedy next code count
    let (entry, code) := body after code
    emit code (choice greedy entry next)

/-- A body that runs any number of times. One that may match nothing goes through the choice after
its first round, so that an empty round ends it. -/
def emitStar (nullable : Bool) (body : Nat → Code → Nat × Code) (greedy : Bool) (next : Nat)
    (code : Code) : Nat × Code :=
  if nullable then
    let (entry, code) := emitLoop body greedy next code
    emit code (choice greedy entry next)
  else
    let loop := code.size
    (loop, (emitLoop body greedy next code).2)

/-- Adds the code of a pattern that goes on at `next`; the result tells where it starts. -/
def emitPattern : Pattern → Nat → Code → Nat × Code
  | .empty, next, code => (next, code)
  | .chars set, next, code => emit code (.consume set next)
  | .assertion a, next, code => emit code (.check a next)
  | .concat a b, next, code =>
    let (middle, code) := emitPattern b next code
    emitPattern a middle code
  | .alternate a b, next, code =>
    let (first, code) := emitPattern a next code
    let (second, code) := emitPattern b next code
    emit code (.split first second)
  | .repetition body least most greedy, next, code =>
    let single := emitPattern body
    match most with
    | some m =>
      let (after, code) := emitOptional single greedy next code (m - least)
      emitCopies single after code least
    | none =>
      match least with
      | 0 => emitStar body.isNullable single greedy next code
      | n + 1 =>
        let (entry, code) := emitLoop single greedy next code
        emitCopies single entry code n

def ofPattern (p : Pattern) : Program :=
  let (entry, code) := emitPattern p 0 #[.accept]
  ⟨code, entry⟩

end Program

end ScriptSurvey.Regex
