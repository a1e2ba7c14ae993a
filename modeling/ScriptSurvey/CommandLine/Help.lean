import ScriptSurvey.CommandLine.Command

/-!
# Help pages

A page tells what the program or one of its commands is for, how it is typed, and what its arguments
mean. It comes in short, with each argument on a line, and in full, with the meaning below the
argument.
-/
namespace ScriptSurvey.CommandLine

def programName : String := "code-atlas"

def programVersion : String := "0.3.0"

def programAbout : String :=
  "Code intelligence backend for TypeScript/JavaScript: symbol graph, dead code, quality metrics and "
    ++ "pattern rules for AI agents."

/-- The name of the program together with a command. -/
def fullName (command : Option String) : String :=
  match command with
  | some c => programName ++ "-" ++ c
  | none => programName

/-- What is `typed`, what it means, a note in brackets, and the values to choose from with what they
mean. -/
structure Entry where
  typed : String
  about : String
  note : Option String
  choices : List (String × String)
  deriving DecidableEq, Repr, Inhabited

namespace Entry

def plain (typed about : String) : Entry := ⟨typed, about, none, []⟩

def defaultNote (value : String) : Option String := some s!"[default: {value}]"

/-- The formats with what they are. -/
def formats : List (String × String) :=
  [("compact", "Compact line-per-result text, token-optimized for AI agent use (default)"),
   ("json", "Pretty-printed JSON of the full result")]

/-- How a value is called where an argument is described. -/
def placeholder (slot : Slot) : String :=
  String.ofList (slot.name.toList.map fun c => if c = '-' then '_' else c.toUpper)

/-- A plain argument stands in angle brackets where it is `needed`, else in square ones. -/
def typedPlain (needed : Bool) (slot : Slot) : String :=
  if needed then s!"<{placeholder slot}>" else s!"[{placeholder slot}]"

def ofPlain (needed : Bool) (slot : Slot) : Entry :=
  ⟨typedPlain needed slot, slot.about, if needed then none else defaultNote ".", []⟩

/-- Options without a letter leave its place empty. -/
def ofOption (slot : Slot) : Entry :=
  let typed := s!"    --{slot.name} <{placeholder slot}>"
  match slot.kind with
  | .format => ⟨typed, slot.about, defaultNote "compact", formats⟩
  | _ => plain typed slot.about

/-- Spaces that bring a text to a width. -/
def padding (width : Nat) (text : String) : String :=
  String.ofList (List.replicate (width - text.length) ' ')

def choiceNote (choices : List (String × String)) : List String :=
  if choices.isEmpty then []
  else ["[possible values: " ++ ", ".intercalate (choices.map (·.1)) ++ "]"]

/-- Pads what is typed to a width, and sets what it means beside it. -/
def line (width : Nat) (e : Entry) : String :=
  let parts := (e.about :: e.note.toList ++ choiceNote e.choices).filter (!·.isEmpty)
  "  " ++ e.typed ++ padding width e.typed ++ "  " ++ " ".intercalate parts

/-- The width of the first column. -/
def width (entries : List Entry) : Nat := (entries.map (·.typed.length)).foldl max 0

def lines (entries : List Entry) : String :=
  "\n".intercalate (entries.map (line (width entries)))

def indent : String := "          "

/-- The values to choose from, one on a line, with what they mean in a column. -/
def choiceLines (choices : List (String × String)) : List String :=
  let width := (choices.map (·.1.length)).foldl max 0
  choices.map fun (name, about) => s!"{indent}- {name}: " ++ padding width name ++ about

/-- Sets what is meant below what is typed. The note follows after an indented empty line. -/
def block (e : Entry) : String :=
  let parts := (e.about :: e.note.toList).filter (!·.isEmpty)
  let head := s!"  {e.typed}\n{indent}" ++ s!"\n{indent}\n{indent}".intercalate parts
  if e.choices.isEmpty then head
  else "\n".intercalate (head :: "" :: (indent ++ "Possible values:") :: choiceLines e.choices)

def blocks (entries : List Entry) : String := "\n\n".intercalate (entries.map block)

end Entry

/-- A page `about` something in paragraphs, which is typed as `usage` tells. The commands stay on lines
of their own also in full. -/
structure Page where
  about : List String
  usage : String
  commands : List Entry
  plain : List Entry
  options : List Entry
  deriving DecidableEq, Repr, Inhabited

namespace Page

/-- A page has more to say in full if it has more than one paragraph or choices with a meaning. -/
def hasMore (page : Page) : Bool :=
  page.about.length > 1 || page.options.any fun e => !e.choices.isEmpty

def helpAbout (more full : Bool) : String :=
  match more, full with
  | false, _ => "Print help"
  | true, false => "Print help (see more with '--help')"
  | true, true => "Print help (see a summary with '-h')"

/-- The options that every command has. -/
def standing (more full : Bool) : List Entry :=
  [.plain "-h, --help" (helpAbout more full), .plain "-V, --version" "Print version"]

/-- In full, the first of several paragraphs is a sentence like the others. -/
def aboutText (full : Bool) (about : List String) : String :=
  match about with
  | [] => ""
  | [only] => only
  | first :: more => if full then "\n\n".intercalate ((first ++ ".") :: more) else first

def part (title : String) (layout : List Entry → String) (entries : List Entry) : List String :=
  if entries.isEmpty then [] else [s!"{title}:\n{layout entries}"]

def text (full : Bool) (page : Page) : String :=
  let full := full && page.hasMore
  let layout := if full then Entry.blocks else Entry.lines
  "\n\n".intercalate ([aboutText full page.about, s!"Usage: {programName} {page.usage}"]
    ++ part "Commands" Entry.lines page.commands ++ part "Arguments" layout page.plain
    ++ part "Options" layout page.options) ++ "\n"

/-- The page of a command. -/
def ofVerb (full : Bool) (verb : Verb) : Page :=
  let shape := verb.shape
  let needed := (shape.plain.take shape.needed).map (Entry.ofPlain true)
  let plain := needed ++ (shape.plain.drop shape.needed).map (Entry.ofPlain false)
  let options := shape.options.map Entry.ofOption
  let page : Page := ⟨verb.about, "", [], plain, options⟩
  let words := [verb.text] ++ (if options.isEmpty then [] else ["[OPTIONS]"]) ++ plain.map (·.typed)
  { page with usage := " ".intercalate words, options := options ++ standing page.hasMore full }

def helpSummary : String := "Print this message or the help of the given subcommand(s)"

/-- The page of the whole program. -/
def program : Page :=
  ⟨[programAbout], "<COMMAND>",
    Verb.all.map (fun v => .plain v.text (aboutText false v.about)) ++ [.plain helpWord helpSummary],
    [], standing false false⟩

/-- The page of the command that asks for help. -/
def ofHelp : Page :=
  ⟨[helpSummary], helpWord ++ " [COMMAND]...", [],
    [.plain "[COMMAND]..." "Print help for the subcommand(s)"], []⟩

/-- The page of a command, or of the whole program. -/
def ofCommand (command : Option String) (full : Bool) : Page :=
  match command with
  | none => program
  | some word => match Verb.ofText? word with
    | some verb => ofVerb full verb
    | none => ofHelp

end Page

end ScriptSurvey.CommandLine
