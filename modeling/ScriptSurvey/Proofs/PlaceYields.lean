import ScriptSurvey.Proofs.CalledNames
import ScriptSurvey.Proofs.ReadingOrder

/-!
# What places yield

Extraction carries a scope down the tree and reads some functions and classes together with the
field or variable that holds them. Here the same is said of each place alone: what it declares,
calls and binds is told by the node and the nodes above it (`contribute`), and `yieldOf` puts
together what the places that are read contribute. Members belong to the nearest class with a name,
tokens and calls to the nearest function with a block as its body.
-/
namespace ScriptSurvey.Extraction

open Syntax (Node Place Kind)

/-! ## Classes -/

/-- The nearest class with a name around a place. -/
def classAround? (p : Place) : Option Place := around isNamedClass p

def boundName? (p : Place) : Option String :=
  (p.parent?.filter namesValue).bind fun q => (q.node.field? "name").map (·.text)

/-- The name of a class that has one, or takes that of a variable or of the default export. -/
def className (p : Place) : String := (className? p (boundName? p)).getD ""

def enclosingOf (p : Place) : EnclosingClass := ⟨className p, classParent? p.node, isExportChild p⟩

def classAt? (p : Place) : Option Declaration :=
  if isNamedClass p then
    some ⟨className p, .classDef, none, p.line, isExportChild p, isDocumented (exportWrapper p)⟩
  else none

def classInfoOf (p : Place) (methods : List (String × Nat)) (properties : List String) :
    ClassInfo :=
  ⟨className p, p.line, classParent? p.node, methods, properties⟩

/-! ## Members -/

def memberName (p : Place) : String :=
  ((if p.kind == .fieldDefinition then (p.node.field? "property").or (p.node.field? "name")
    else p.node.field? "name").map (·.text)).getD ""

def holdsFunction (p : Place) : Bool := (p.field? "value").any isFunctionValue

/-- A method in the body of a class, or a field that holds a function. -/
def isMethodSite (p : Place) : Bool :=
  p.kind == .methodDefinition && p.parentKind? == some .classBody ||
    p.kind == .fieldDefinition && holdsFunction p

/-- A field with a name that holds anything else, or nothing. -/
def isPropertySite (p : Place) : Bool :=
  p.kind == .fieldDefinition && !holdsFunction p && !(memberName p).isEmpty

def methodAt? (p : Place) : Option Declaration :=
  if isMethodSite p then
    (classAround? p).map fun c =>
      ⟨memberName p, .method, some (className c), p.line, isExportChild c, isDocumented p⟩
  else none

def propertyAt? (p : Place) : Option String :=
  if isPropertySite p then (classAround? p).map fun _ => memberName p else none

def fieldMethod? (p : Place) : Option Declaration :=
  (p.parent?.filter (·.kind == .fieldDefinition)).bind methodAt?

/-! ## Functions and variables -/

def isDeclaredFunction (p : Place) : Bool :=
  p.kind == .functionDeclaration || isFunctionValue p && isExportChild p

def declaredName (p : Place) : String := ((p.node.field? "name").map (·.text)).getD defaultName

/-- The function that a place declares: itself, or that which a variable at the top of the file
holds. -/
def functionAt? (p : Place) : Option Declaration :=
  if isDeclaredFunction p then
    some ⟨declaredName p, .function, none, p.line, isExportChild p, isDocumented (exportWrapper p)⟩
  else if namesValue p && holdsFunction p && isTopLevel p then
    some ⟨memberName p, .function, none, p.line, (p.parent?.map isExportChild).getD false,
      (p.parent?.map fun d => isDocumented (exportWrapper d)).getD false⟩
  else none

def callableAt? (p : Place) : Option Declaration := (functionAt? p).or (methodAt? p)

def declarationAt? (p : Place) : Option Declaration := (callableAt? p).or (classAt? p)

def isMeasured (p : Place) : Bool := p.kind.isFunction && hasBlock p

/-- The name of a function: its own, that of the method that it is, or that of the variable or field
that holds it. -/
def functionName? (p : Place) : Option String :=
  if isDeclaredFunction p then some (declaredName p)
  else if p.kind == .methodDefinition then some (memberName p)
  else ((boundName? p).or ((fieldMethod? p).map (·.name))).or ((p.node.field? "name").map (·.text))

def functionOwner? (p : Place) : Option String :=
  if isDeclaredFunction p then none
  else (if p.kind == .methodDefinition then methodAt? p else fieldMethod? p).bind (·.owner)

def bindingsAt (p : Place) : List Binding :=
  let names :=
    match p.node.field? "name" with
    | none => []
    | some name =>
      if namesValue p then
        if (p.field? "value").any fun v => isFunctionValue v || v.kind == Kind.classDeclaration then []
        else [name.text]
      else boundNames name
  if p.kind == .variableDeclarator && !(p.parent?.map isExportChild).getD false then
    names.map (⟨·, p.line⟩)
  else []

/-! ## Calls -/

def callerAt? (p : Place) : Option String :=
  (enclosingPlaces p.above).findSome? fun q => (callableAt? q).map (·.key)

def scopeOf (p : Place) : Scope := ⟨(classAround? p).map enclosingOf, callerAt? p⟩

def callAt? (p : Place) : Option CallSite := ownCall? (scopeOf p) p

/-! ## Yields -/

def factsOf (p : Place) (flow : List Syntax.FlowToken) (keys : List String) : FunctionFacts where
  name := functionName? p
  owner := functionOwner? p
  kind := functionKind p
  line := p.line
  endLine := p.node.endRow + 1
  params := parameterNames p.node
  isAsync := isAsync p.node
  flow := flow
  calls := Text.sortedDistinct keys

/-- A place with what the places inside it yield. A class keeps the members, a measured function the
tokens and calls; all else is passed up. -/
def contribute (p : Place) (h : Harvest) : Harvest where
  declarations := (declarationAt? p).toList ++ h.declarations
  classes := (if isNamedClass p then [classInfoOf p h.methods h.properties] else []) ++ h.classes
  calls := (callAt? p).toList ++ h.calls
  bindings := bindingsAt p ++ h.bindings
  functions := (if isMeasured p then [factsOf p h.flow h.callKeys] else []) ++ h.functions
  flow := p.node.flowToken?.toList ++ if isMeasured p then [] else h.flow
  callKeys := ((callAt? p).map (·.key)).toList ++ if isMeasured p then [] else h.callKeys
  methods := ((methodAt? p).map fun d => (d.name, d.line)).toList ++
    if isNamedClass p then [] else h.methods
  properties := (propertyAt? p).toList ++ if isNamedClass p then [] else h.properties

def yieldOf (p : Place) : Harvest :=
  contribute p (Harvest.concat ((readChildren p).attach.map fun ⟨r, _⟩ => yieldOf r))
termination_by sizeOf p.node
decreasing_by exact sizeOf_of_mem_readChildren ‹_›

lemma yieldOf_eq (p : Place) :
    yieldOf p = contribute p (Harvest.concat ((readChildren p).map yieldOf)) := by
  conv_lhs => rw [yieldOf]
  simp only [List.map_subtype, List.unattach_attach]

end ScriptSurvey.Extraction
