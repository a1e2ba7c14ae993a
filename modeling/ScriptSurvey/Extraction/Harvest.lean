import ScriptSurvey.Extraction.Pattern
import ScriptSurvey.Facts
import ScriptSurvey.Syntax.Place
import ScriptSurvey.Text.Sorted

/-!
# Declarations, calls and bodies

One pass over a syntax tree gathers declarations, classes, calls, bindings and function bodies.
`outline` says of a single place what it contributes and which places inside it are read next,
each in its scope; `harvest` follows the outlines down the tree.
-/
namespace ScriptSurvey.Extraction

open Syntax (Node Place Kind FlowToken)

/-- What a part of a tree contributes. `flow` and `callKeys` belong to the innermost measured
function around the part, `methods` and `properties` to the innermost class. -/
structure Harvest where
  declarations : List Declaration
  classes : List ClassInfo
  calls : List CallSite
  bindings : List Binding
  functions : List FunctionFacts
  flow : List FlowToken
  callKeys : List String
  methods : List (String × Nat)
  properties : List String
  deriving DecidableEq, Repr, Inhabited

namespace Harvest

def empty : Harvest := ⟨[], [], [], [], [], [], [], [], []⟩

def append (a b : Harvest) : Harvest :=
  ⟨a.declarations ++ b.declarations, a.classes ++ b.classes, a.calls ++ b.calls,
    a.bindings ++ b.bindings, a.functions ++ b.functions, a.flow ++ b.flow,
    a.callKeys ++ b.callKeys, a.methods ++ b.methods, a.properties ++ b.properties⟩

instance : Append Harvest := ⟨append⟩

def concat (parts : List Harvest) : Harvest := parts.foldr (· ++ ·) empty

def declaring (d : Declaration) (h : Harvest) : Harvest :=
  { h with declarations := d :: h.declarations }

def binding (names : List String) (line : Nat) (h : Harvest) : Harvest :=
  { h with bindings := names.map (⟨·, line⟩) ++ h.bindings }

def calling (c : CallSite) (h : Harvest) : Harvest :=
  { h with calls := c :: h.calls, callKeys := c.key :: h.callKeys }

def method (name : String) (line : Nat) (h : Harvest) : Harvest :=
  { h with methods := (name, line) :: h.methods }

def property (name : String) (h : Harvest) : Harvest :=
  { h with properties := name :: h.properties }

def token (t : Option FlowToken) (h : Harvest) : Harvest :=
  { h with flow := t.toList ++ h.flow }

/-- Closes a class: the members gathered inside are its own. -/
def inClass (name : String) (line : Nat) (parent : Option String) (h : Harvest) : Harvest :=
  { h with
    classes := ⟨name, line, parent, h.methods, h.properties⟩ :: h.classes
    methods := []
    properties := [] }

end Harvest

/-- The class around a place, as far as it has a name. -/
structure EnclosingClass where
  name : String
  parent : Option String
  exported : Bool
  deriving DecidableEq, Repr, Inhabited

/-- What a place knows of the declarations around it. -/
structure Scope where
  enclosing : Option EnclosingClass
  caller : Option String
  deriving DecidableEq, Repr, Inhabited

namespace Scope

/-- Outside of every declaration. -/
def outer : Scope := ⟨none, none⟩

end Scope

def isFunctionValue (p : Place) : Bool :=
  p.kind == .arrowFunction || p.kind == .functionExpression

def isExportChild (p : Place) : Bool := p.parentKind? == some .exportStatement

/-- The place in front of which a doc comment may stand: the export statement when exported. -/
def exportWrapper (p : Place) : Place :=
  match p.parent? with
  | some q => if q.kind == .exportStatement then q else p
  | none => p

/-- A doc comment ends right above the node; decorators between them are passed over. -/
def documentedBy (anchor : Node) : List Node → Bool
  | [] => false
  | p :: rest =>
    if !p.named then documentedBy anchor rest
    else if p.label == "decorator" then documentedBy p rest
    else p.kind == .comment && p.text.startsWith "/**" && anchor.startRow ≤ p.endRow + 1

def isDocumented (p : Place) : Bool := documentedBy p.node p.before

def isAsync (node : Node) : Bool := node.children.any (·.label == "async")

/-- The class that a class extends, as written. -/
def classParent? (node : Node) : Option String :=
  (node.childLabelled? "class_heritage").bind fun heritage =>
    (heritage.namedChildren.find? (·.label != "implements_clause")).bind fun child =>
      if child.label == "extends_clause" then (child.field? "value").map (·.text)
      else some child.text

/-- The name in front of a called member, as far as it can be told from the text. -/
def qualifierOf (scope : Scope) (object : Node) : Option String :=
  match object.label with
  | "this" => scope.enclosing.map (·.name)
  | "super" => scope.enclosing.bind (·.parent)
  | "identifier" => some object.text
  | "member_expression" => (object.field? "property").map (·.text)
  | _ => none

/-- The called name and its qualifier; only names and members of objects can be told. -/
def calledName? (scope : Scope) (callee : Node) : Option (String × Option String) :=
  match callee.label with
  | "identifier" => some (callee.text, none)
  | "member_expression" =>
    (callee.field? "property").map fun property =>
      (property.text, (callee.field? "object").bind (qualifierOf scope))
  | _ => none

def callSite? (scope : Scope) (callee : Node) (line : Nat) : Option CallSite :=
  (calledName? scope callee).bind fun (name, qualifier) =>
    if name.isEmpty then none else some ⟨scope.caller, name, qualifier, line⟩

/-- A place inside `p`. -/
abbrev Inner (p : Place) := { q : Place // sizeOf q.node < sizeOf p.node }

namespace Inner

def children (p : Place) : List (Inner p) :=
  p.children.attach.map fun ⟨q, h⟩ => ⟨q, Place.sizeOf_children h⟩

def field? (p : Place) (name : String) : Option (Inner p) :=
  match h : p.field? name with
  | some q => some ⟨q, Place.sizeOf_field? h⟩
  | none => none

def within {p : Place} (q : Inner p) (r : Inner q.1) : Inner p := ⟨r.1, Nat.lt_trans r.2 q.2⟩

end Inner

/-- What a place contributes: the places inside it that are read, and what becomes of their
harvest. -/
structure Outline (p : Place) where
  inside : List (Scope × Inner p)
  finish : Harvest → Harvest

namespace Outline

/-- The place adds nothing of its own. -/
def passing (scope : Scope) (p : Place) : Outline p :=
  ⟨(Inner.children p).map (scope, ·), id⟩

/-- The outline of an inner place, seen from outside. -/
def lift {p : Place} (q : Inner p) (o : Outline q.1) : Outline p :=
  ⟨o.inside.map fun (s, r) => (s, q.within r), o.finish⟩

def andThen {p : Place} (o : Outline p) (f : Harvest → Harvest) : Outline p :=
  ⟨o.inside, f ∘ o.finish⟩

end Outline

def functionKind (p : Place) : FunctionKind :=
  match p.kind with
  | .functionDeclaration => .declaration
  | .methodDefinition => .method
  | .arrowFunction => .arrow
  | _ => .expression

/-- The body is a block; only such functions are measured. -/
def hasBlock (p : Place) : Bool :=
  match p.field? "body" with
  | some body => body.kind == .statementBlock
  | none => false

/-- Closes a measured function: the tokens and calls gathered inside are its own. -/
def measured (p : Place) (name owner : Option String) (h : Harvest) : Harvest :=
  { h with
    functions :=
      { name := name, owner := owner, kind := functionKind p
        line := p.line, endLine := p.node.endRow + 1
        params := parameterNames p.node, isAsync := isAsync p.node
        flow := h.flow, calls := Text.sortedDistinct h.callKeys } :: h.functions
    flow := []
    callKeys := [] }

/-- Reads the parameters and the body of a function. -/
def functionOutline (scope : Scope) (p : Place) (name owner : Option String) : Outline p where
  inside :=
    (((Inner.field? p "parameters").or (Inner.field? p "parameter")).toList
      ++ (Inner.field? p "body").toList).map (scope, ·)
  finish := if hasBlock p then measured p name owner else id

/-- A function under a name of its own. -/
def declaredFunction (scope : Scope) (p : Place) : Outline p :=
  let name := ((p.node.field? "name").map (·.text)).getD defaultName
  (functionOutline { scope with caller := some name } p (some name) none).andThen
    (Harvest.declaring ⟨name, .function, none, p.line, isExportChild p,
      isDocumented (exportWrapper p)⟩)

/-- A member of a class that holds a function; `p` is the function and `site` the member. -/
def memberFunction (scope : Scope) (cls : EnclosingClass) (name : String) (site p : Place) :
    Outline p :=
  let d : Declaration := ⟨name, .method, some cls.name, site.line, cls.exported, isDocumented site⟩
  (functionOutline { scope with caller := some d.key } p (some name) (some cls.name)).andThen
    (Harvest.declaring d ∘ Harvest.method name site.line)

/-- A method outside of a class body belongs to an object literal and is no declaration. -/
def methodOutline (scope : Scope) (p : Place) : Outline p :=
  let name := ((p.node.field? "name").map (·.text)).getD ""
  match scope.enclosing with
  | some cls =>
    if p.parentKind? == some .classBody then memberFunction scope cls name p p
    else functionOutline scope p (some name) none
  | none => functionOutline scope p (some name) none

/-- The name of a class: its own, that of the variable it is bound to, or the default one when
exported. -/
def className? (p : Place) (bound : Option String) : Option String :=
  (((p.node.field? "name").map (·.text)).or bound).or
    (if isExportChild p then some defaultName else none)

/-- A class without a name is read like any other expression. -/
def classOutline (scope : Scope) (p : Place) (bound : Option String) : Outline p :=
  match className? p bound with
  | none => Outline.passing scope p
  | some name =>
    let parent := classParent? p.node
    let exported := isExportChild p
    { inside := (Inner.field? p "body").toList.map
        ({ scope with enclosing := some ⟨name, parent, exported⟩ }, ·)
      finish := Harvest.declaring ⟨name, .classDef, none, p.line, exported,
          isDocumented (exportWrapper p)⟩ ∘ Harvest.inClass name p.line parent }

/-- A field that holds a function is a method, every other one a property. -/
def fieldOutline (scope : Scope) (p : Place) : Outline p :=
  match scope.enclosing with
  | none => Outline.passing scope p
  | some cls =>
    let name := (((p.node.field? "property").or (p.node.field? "name")).map (·.text)).getD ""
    let property := if name.isEmpty then id else Harvest.property name
    match Inner.field? p "value" with
    | some v =>
      if isFunctionValue v.1 then Outline.lift v (memberFunction scope cls name p v.1)
      else ⟨[(scope, v)], property⟩
    | none => ⟨[], property⟩

/-- The declarator's statement stands at the top of the file. -/
def isTopLevel (p : Place) : Bool :=
  match p.parent?.bind Place.parent? with
  | some q => q.kind == .program || q.kind == .exportStatement
  | none => false

/-- A variable that holds a function or a class is declared under its own name, every other one is
a binding unless exported. -/
def declaratorOutline (scope : Scope) (p : Place) : Outline p :=
  match p.node.field? "name" with
  | none => Outline.passing scope p
  | some nameNode =>
    let value := Inner.field? p "value"
    let exported := (p.parent?.map isExportChild).getD false
    let plain (names : List String) : Outline p :=
      ⟨value.toList.map (scope, ·), if exported then id else Harvest.binding names p.line⟩
    if nameNode.label == "identifier" then
      let name := nameNode.text
      match value with
      | none => plain [name]
      | some v =>
        if isFunctionValue v.1 then
          if isTopLevel p then
            let documented := (p.parent?.map fun d => isDocumented (exportWrapper d)).getD false
            (Outline.lift v (functionOutline { scope with caller := some name } v.1 (some name)
              none)).andThen
              (Harvest.declaring ⟨name, .function, none, p.line, exported, documented⟩)
          else Outline.lift v (functionOutline scope v.1 (some name) none)
        else if v.1.kind == .classDeclaration then
          Outline.lift v (classOutline scope v.1 (some name))
        else plain [name]
    else plain (boundNames nameNode)

/-- A call or construction of `callee`, if its name can be told. -/
def callOutline (scope : Scope) (p : Place) (callee : Option Node) : Outline p :=
  match callee.bind (callSite? scope · p.line) with
  | some c => (Outline.passing scope p).andThen (Harvest.calling c)
  | none => Outline.passing scope p

def outline (scope : Scope) (p : Place) : Outline p :=
  match p.kind with
  | .functionDeclaration => declaredFunction scope p
  | .functionExpression | .arrowFunction =>
    if isExportChild p then declaredFunction scope p
    else functionOutline scope p ((p.node.field? "name").map (·.text)) none
  | .methodDefinition => methodOutline scope p
  | .classDeclaration => classOutline scope p none
  | .fieldDefinition => fieldOutline scope p
  | .variableDeclarator => declaratorOutline scope p
  | .callExpression => callOutline scope p (p.node.field? "function")
  | .newExpression => callOutline scope p (p.node.field? "constructor")
  | _ => Outline.passing scope p

/-- The harvest of a place in its scope. -/
def harvest (scope : Scope) (p : Place) : Harvest :=
  let o := outline scope p
  Harvest.token p.node.flowToken?
    (o.finish (Harvest.concat (o.inside.map fun (s, q) => harvest s q.1)))
termination_by sizeOf p.node
decreasing_by exact q.2

/-- Calls of one key by one caller count once, at their first place. -/
def distinctCalls (calls : List CallSite) : List CallSite :=
  calls.foldl (fun kept c =>
    if kept.any fun k => k.caller == c.caller && k.key == c.key then kept else kept ++ [c]) []

end ScriptSurvey.Extraction
