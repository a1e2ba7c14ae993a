import ScriptSurvey.Regex.Program

/-!
# Searching with programs

All ways through a program are followed side by side, the preferred ones first, and no instruction
is entered twice at one place. Matches are reported by the offsets of their bytes.
-/
namespace ScriptSurvey.Regex

/-- A way through the program, with the offset where it began. -/
structure Thread where
  at_ : Nat
  start : Nat
  deriving DecidableEq, Repr, Inhabited

structure Match where
  start : Nat
  stop : Nat
  deriving DecidableEq, Repr, Inhabited

namespace Program

/-- What the threads at one place come to: those that wait for a character, and the start of the
preferred one that accepts. Threads after an accepting one are dropped. -/
structure Front where
  waiting : List Thread
  accepted : Option Nat
  deriving DecidableEq, Repr, Inhabited

/-- Follows threads to the instructions that use a character. Every instruction is visited once, so
twice their number of steps is enough for the stack. -/
def follow (program : Program) (before after : Option Char) :
    Nat → List Nat → List Thread → List Thread → Front
  | 0, _, waiting, _ => ⟨waiting.reverse, none⟩
  | _, _, waiting, [] => ⟨waiting.reverse, none⟩
  | fuel + 1, visited, waiting, thread :: stack =>
    if visited.contains thread.at_ then follow program before after fuel visited waiting stack
    else
      let visited := thread.at_ :: visited
      match program.code[thread.at_]? with
      | none => follow program before after fuel visited waiting stack
      | some .accept => ⟨waiting.reverse, some thread.start⟩
      | some (.consume _ _) =>
        follow program before after fuel visited (thread :: waiting) stack
      | some (.check condition next) =>
        let stack := if condition.holds before after then ⟨next, thread.start⟩ :: stack else stack
        follow program before after fuel visited waiting stack
      | some (.split a b) =>
        follow program before after fuel visited waiting
          (⟨a, thread.start⟩ :: ⟨b, thread.start⟩ :: stack)

/-- Moves a thread over a character. -/
def advance? (program : Program) (c : Char) (thread : Thread) : Option Thread :=
  match program.code[thread.at_]? with
  | some (.consume set next) => if set.contains c then some ⟨next, thread.start⟩ else none
  | _ => none

/-- Runs threads over the text. A new thread starts at every place until a match is found, and a
match that is found later is preferred. -/
def run (program : Program) (best : Option Match) (threads : List Thread) (before : Option Char)
    (offset : Nat) (text : List Char) : Option Match :=
  let threads := if best.isNone then threads ++ [⟨program.entry, offset⟩] else threads
  let front := follow program before text.head? (2 * program.code.size + threads.length + 1) []
    [] threads
  let best := (front.accepted.map fun s => ⟨s, offset⟩).or best
  match text with
  | [] => best
  | c :: rest =>
    if front.waiting.isEmpty && best.isSome then best
    else run program best (front.waiting.filterMap (program.advance? c)) (some c)
      (offset + c.utf8Size) rest

/-- The first match that starts at `offset` or later, where `before` is the character in front of
the text left. -/
def find? (program : Program) (before : Option Char) (offset : Nat) (text : List Char) :
    Option Match := run program none [] before offset text

/-- Drops the characters in front of an offset: the character before it, and the text left. -/
def cutBytes (before : Option Char) (offset goal : Nat) (text : List Char) :
    Option Char × List Char :=
  match text with
  | [] => (before, [])
  | c :: rest =>
    if goal ≤ offset then (before, c :: rest)
    else cutBytes (some c) (offset + c.utf8Size) goal rest

/-- The matches from an offset on, from left to right without overlap. An empty match right after
another match is passed over by starting one character later. -/
def matchesFrom (program : Program) : Nat → Option Nat → Option Char → Nat → List Char → List Match
  | 0, _, _, _, _ => []
  | fuel + 1, last, before, offset, text =>
    let found := program.find? before offset text
    let found := match found with
      | some m =>
        if m.start = m.stop && last = some m.stop then
          match text with
          | [] => none
          | c :: rest => program.find? (some c) (offset + c.utf8Size) rest
        else found
      | none => none
    match found with
    | none => []
    | some m =>
      let (nextBefore, rest) := cutBytes before offset m.stop text
      m :: matchesFrom program fuel (some m.stop) nextBefore m.stop rest

/-- All matches in a text. -/
def allMatches (program : Program) (text : List Char) : List Match :=
  program.matchesFrom (2 * text.length + 2) none none 0 text

end Program

end ScriptSurvey.Regex
