import ScriptSurvey.Language
import ScriptSurvey.Syntax.Flow

/-!
# Facts about a file

What the analyses know of a source file: its declarations, classes, calls, imports, exports, local
bindings and function bodies.
-/
namespace ScriptSurvey

inductive DeclarationKind where
  | function
  | classDef
  | method
  deriving DecidableEq, Repr, Inhabited

/-- A method has an owning class. -/
structure Declaration where
  name : String
  kind : DeclarationKind
  owner : Option String
  line : Nat
  exported : Bool
  documented : Bool
  deriving DecidableEq, Repr, Inhabited

/-- A member is addressed through its owner. -/
def memberKey (owner : Option String) (name : String) : String :=
  match owner with
  | some o => o ++ "." ++ name
  | none => name

namespace Declaration

def key (d : Declaration) : String := memberKey d.owner d.name

end Declaration

structure ClassInfo where
  name : String
  line : Nat
  parent : Option String
  methods : List (String × Nat)
  properties : List String
  deriving DecidableEq, Repr, Inhabited

/-- A call by name. The caller is the key of the enclosing declaration; a call outside of every
declaration has none. -/
structure CallSite where
  caller : Option String
  callee : String
  qualifier : Option String
  line : Nat
  deriving DecidableEq, Repr, Inhabited

namespace CallSite

def key (c : CallSite) : String := memberKey c.qualifier c.callee

end CallSite

inductive ImportKind where
  | esm
  | require
  | dynamic
  | reExport
  deriving DecidableEq, Repr, Inhabited

/-- The name under which a module exports its main value. -/
def defaultName : String := "default"

/-- Stands for all names of a module. -/
def wildcard : String := "*"

structure ImportBinding where
  imported : String
  bound : String
  source : String
  kind : ImportKind
  line : Nat
  deriving DecidableEq, Repr, Inhabited

namespace ImportBinding

def isRelative (i : ImportBinding) : Bool := i.source.startsWith "."

end ImportBinding

inductive ExportKind where
  | named
  | default
  | reExport
  | commonJs
  deriving DecidableEq, Repr, Inhabited

/-- `name` is what importers see, `bound` the name it has in the file. -/
structure ExportBinding where
  name : String
  bound : String
  line : Nat
  kind : ExportKind
  deriving DecidableEq, Repr, Inhabited

structure Binding where
  name : String
  line : Nat
  deriving DecidableEq, Repr, Inhabited

inductive FunctionKind where
  | declaration
  | method
  | expression
  | arrow
  deriving DecidableEq, Repr, Inhabited

/-- A function with a block as its body. `calls` holds the keys of the calls made from the body
itself, sorted and without repetition. -/
structure FunctionFacts where
  name : Option String
  owner : Option String
  kind : FunctionKind
  line : Nat
  endLine : Nat
  params : List String
  isAsync : Bool
  flow : List Syntax.FlowToken
  calls : List String
  deriving DecidableEq, Repr, Inhabited

namespace FunctionFacts

def displayName (f : FunctionFacts) : String :=
  match f.name with
  | some name => memberKey f.owner name
  | none => "<anonymous>"

end FunctionFacts

structure FactSheet where
  path : Path
  language : Language
  lineCount : Nat
  parseFailed : Bool
  declarations : List Declaration
  classes : List ClassInfo
  calls : List CallSite
  imports : List ImportBinding
  exports : List ExportBinding
  bindings : List Binding
  functions : List FunctionFacts
  deriving DecidableEq, Repr, Inhabited

namespace FactSheet

/-- The sheet of a file that cannot be read or parsed. -/
def failed (path : Path) (language : Language) (lineCount : Nat) : FactSheet :=
  ⟨path, language, lineCount, true, [], [], [], [], [], [], []⟩

def exportsName (sheet : FactSheet) (name : String) : Bool :=
  sheet.exports.any (·.name == name)

end FactSheet

end ScriptSurvey
