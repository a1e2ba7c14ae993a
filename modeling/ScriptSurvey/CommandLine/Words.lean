import ScriptSurvey.Config
import ScriptSurvey.Health.Check

/-!
# Reading the words of a command

The words after a command are its options and its plain arguments, in any order. The values of an
argument are judged when the next argument begins, so a word that is out of place is reported
before a bad value right in front of it.
-/
namespace ScriptSurvey.CommandLine

/-- Why words are no command, or ask for something else than running one. Help is about a command or
about the whole program, in `full` or in short. -/
inductive Refusal where
  | help (command : Option String) (full : Bool)
  | version (command : Option String)
  | noCommand
  | unknownCommand
  | unknownArgument
  | missingArgument
  | notAChoice
  | badValue
  | repeated
  | unwantedValue
  deriving DecidableEq, Repr, Inhabited

/-- What an argument may hold. -/
inductive Kind where
  | path
  | text
  | limit
  | score
  | format
  | severity
  | check
  deriving DecidableEq, Repr, Inhabited

/-- A whole number of at most `bound`, with an optional plus sign. -/
def natural? (bound : Nat) (word : String) : Option Nat :=
  let digits := match word.toList with
    | '+' :: rest => rest
    | rest => rest
  if digits.isEmpty || !digits.all Char.isDigit then none
  else
    let n := digits.foldl (fun n c => 10 * n + (c.toNat - '0'.toNat)) 0
    if n ≤ bound then some n else none

def maxLimit : Nat := Nat.pow 2 64 - 1

def maxScore : Nat := Nat.pow 2 32 - 1

/-- A score may be written as a negative zero. -/
def score? (word : String) : Option Nat :=
  match word.toList with
  | '-' :: rest => if !rest.isEmpty && rest.all (· == '0') then some 0 else none
  | _ => natural? maxScore word

inductive Format where
  | compact
  | json
  deriving DecidableEq, Repr, Inhabited

def Format.ofText? (word : String) : Option Format :=
  match word with
  | "compact" => some .compact
  | "json" => some .json
  | _ => none

/-- What is wrong with a value, if anything. -/
def Kind.refusal? (kind : Kind) (word : String) : Option Refusal :=
  let refuseUnless (good : Bool) (r : Refusal) : Option Refusal := if good then none else some r
  match kind with
  | .path => refuseUnless (!word.isEmpty) .notAChoice
  | .text => none
  | .limit => refuseUnless (natural? maxLimit word).isSome .badValue
  | .score => refuseUnless (score? word).isSome .badValue
  | .format => refuseUnless (Format.ofText? word).isSome .notAChoice
  | .severity => refuseUnless (Severity.parse? word).isSome .badValue
  | .check => refuseUnless (Health.Check.parse? word).isSome .badValue

/-- An argument of a command, with what help says `about` it. One with `many` may come again and takes
values between commas. -/
structure Slot where
  name : String
  kind : Kind
  many : Bool
  about : String
  deriving DecidableEq, Repr, Inhabited

/-- The options are named by words with two dashes; plain arguments come in order. Of the plain ones
the first `needed` cannot be left out. -/
structure Shape where
  options : List Slot
  plain : List Slot
  needed : Nat
  deriving DecidableEq, Repr, Inhabited

/-- Values under the names of their slots. -/
abbrev Values := List (String × List String)

/-- `pending` is the argument that is being read, and `open_` tells that it is an option without a
value yet. `place` counts the plain arguments, and `onlyPlain` holds after a double dash. -/
structure State where
  values : Values
  pending : Option (Slot × List String)
  open_ : Bool
  place : Nat
  onlyPlain : Bool
  deriving DecidableEq, Repr, Inhabited

namespace State

def start : State := ⟨[], none, false, 0, false⟩

def splitValues (slot : Slot) (words : List String) : List String :=
  if slot.many then words.flatMap (Text.split · ',') else words

/-- Judges the values of the argument that is being read, and takes them up. -/
def settle (state : State) : Except Refusal State :=
  match state.pending with
  | none => .ok state
  | some (slot, words) =>
    if words.isEmpty then .error .notAChoice
    else if !slot.many && (state.values.lookup slot.name).isSome then .error .repeated
    else
      let values := splitValues slot words
      match values.findSome? slot.kind.refusal? with
      | some r => .error r
      | none => .ok { state with
          values := state.values.filter (·.1 != slot.name)
            ++ [(slot.name, (state.values.lookup slot.name).getD [] ++ values)]
          pending := none, open_ := false }

/-- Refuses to go on, once the argument before is judged. -/
def stop (state : State) (r : Refusal) : Except Refusal State :=
  state.settle.bind fun _ => .error r

/-- Reads a word with two dashes, without them. -/
def readLong (shape : Shape) (command : Option String) (state : State) (word : String) :
    Except Refusal State :=
  let (name, value) := match Text.splitOnce word '=' with
    | some (name, value) => (name, some value)
    | none => (word, none)
  match shape.options.find? (·.name == name) with
  | some slot =>
    state.settle.bind fun state =>
      match value with
      | some v => { state with pending := some (slot, [v]) }.settle
      | none => .ok { state with pending := some (slot, []), open_ := true }
  | none =>
    if name = "help" then
      if value.isSome then .error .unwantedValue else state.stop (.help command true)
    else if name = "version" then
      if value.isSome then .error .unwantedValue else state.stop (.version command)
    else .error .unknownArgument

/-- Reads the letters of a word with one dash. -/
def readShort (command : Option String) (state : State) (letters : List Char) :
    Except Refusal State :=
  match letters.head? with
  | some 'h' => state.stop (.help command false)
  | some 'V' => state.stop (.version command)
  | _ => .error .unknownArgument

/-- Reads a plain argument. -/
def readPlain (shape : Shape) (state : State) (word : String) : Except Refusal State :=
  match shape.plain[state.place]? with
  | none => .error .unknownArgument
  | some slot => state.settle.bind fun state =>
      .ok { state with pending := some (slot, [word]), place := state.place + 1 }

def read (shape : Shape) (command : Option String) (state : State) (word : String) :
    Except Refusal State :=
  if state.onlyPlain then state.readPlain shape word
  else match word.toList with
    | ['-', '-'] => .ok { state with onlyPlain := true }
    | '-' :: '-' :: rest => state.readLong shape command (String.ofList rest)
    | '-' :: c :: rest => state.readShort command (c :: rest)
    | _ =>
      match state.open_, state.pending with
      | true, some (slot, words) =>
        .ok { state with pending := some (slot, words ++ [word]), open_ := false }
      | _, _ => state.readPlain shape word

end State

/-- The values of a command's words. -/
def readWords (shape : Shape) (command : Option String) (words : List String) :
    Except Refusal Values := do
  let read ← words.foldlM (State.read shape command) State.start
  let settled ← read.settle
  if (shape.plain.take shape.needed).all fun s => (settled.values.lookup s.name).isSome then
    return settled.values
  else throw .missingArgument

end ScriptSurvey.CommandLine
