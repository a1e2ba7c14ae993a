import ScriptSurvey.Graph.Basic
import ScriptSurvey.Text.Search

/-!
# Building a symbol graph

The graph of a project is a function of its sheets in their order: codes go to names as they are
first declared, a node stands for all declarations of its name, and an edge for all calls between
two addresses.
-/
namespace ScriptSurvey.SymbolGraph

/-- The kind of node a declaration makes; methods belong to the node of their class. -/
def nodeKind? : DeclarationKind → Option NodeKind
  | .function => some .functionNode
  | .classDef => some .classNode
  | .method => none

/-- Names in the order of their declarations. -/
def declaredNames (project : Project) : List String :=
  project.sheets.flatMap fun s => s.declarations.map (·.name)

/-- A function or class declaration with its file. -/
structure NodeSite where
  declaration : Declaration
  kind : NodeKind
  file : Path
  deriving DecidableEq, Repr, Inhabited

def nodeSites (project : Project) : List NodeSite :=
  project.sheets.flatMap fun s => s.declarations.filterMap fun d =>
    (nodeKind? d.kind).map fun kind => ⟨d, kind, project.relative s.path⟩

/-- The first node of a list under a code takes up a later declaration. -/
def addSite (legend : Legend) (nodes : List GraphNode) (site : NodeSite) : List GraphNode :=
  match legend.codeOf? site.declaration.name with
  | none => nodes
  | some code =>
    if nodes.any (·.code == code) then
      nodes.map fun n =>
        if n.code == code then { n with exported := n.exported || site.declaration.exported } else n
    else nodes ++ [{
      code := code, name := site.declaration.name, kind := site.kind, file := site.file
      line := site.declaration.line, exported := site.declaration.exported
      methods := [], properties := [], parent := none }]

/-- The nodes without their members, in the order of first declaration. -/
def bareNodes (legend : Legend) (project : Project) : List GraphNode :=
  (nodeSites project).foldl (addSite legend) []

def classInfos (project : Project) : List ClassInfo := project.sheets.flatMap (·.classes)

/-- Adds the members and the parent of the classes that have the node's code. -/
def withMembers (legend : Legend) (isNode : String → Bool) (classes : List ClassInfo)
    (node : GraphNode) : GraphNode :=
  match node.kind with
  | .functionNode => node
  | .classNode =>
    let own := classes.filter fun c => legend.codeOf? c.name == some node.code
    { node with
      methods := (own.flatMap fun c => c.methods.filterMap fun m => legend.codeOf? m.1).eraseDups
      properties := (own.flatMap (·.properties)).eraseDups
      parent := (own.findSome? (·.parent)).map fun p =>
        ((legend.codeOf? p).filter isNode).getD p }

def buildNodes (legend : Legend) (project : Project) : List GraphNode :=
  let bare := bareNodes legend project
  let isNode (code : String) : Bool := bare.any (·.code == code)
  (bare.map (withMembers legend isNode (classInfos project))).mergeSort fun a b =>
    decide (a.code ≤ b.code)

/-- The text with its first character in upper case. -/
def capitalized (name : String) : String :=
  match name.toList with
  | [] => ""
  | first :: rest => String.ofList (Text.upperChar first ++ rest)

/-- The code of the node that a name declares. -/
def nodeCode? (legend : Legend) (nodes : List GraphNode) (name : String) : Option String :=
  (legend.codeOf? name).filter fun code => nodes.any (·.code == code)

/-- The address a call goes to; none when it leaves the graph. A qualifier names a class, or
becomes the name of one with a capital. -/
def callTarget? (legend : Legend) (nodes : List GraphNode) (call : CallSite) : Option String :=
  match call.qualifier with
  | some qualifier =>
    ((nodeCode? legend nodes qualifier).or (nodeCode? legend nodes (capitalized qualifier))).map
      fun owner => owner ++ "." ++ (legend.codeOf? call.callee).getD call.callee
  | none => nodeCode? legend nodes call.callee

/-- The address of a declaration key, part by part. -/
def addressOfKey (legend : Legend) (key : String) : String :=
  let encode (part : String) : String := (legend.codeOf? part).getD part
  match Text.splitOnce key '.' with
  | some (owner, member) => encode owner ++ "." ++ encode member
  | none => encode key

/-- Calls outside of declarations come from the file. -/
def callSource (legend : Legend) (project : Project) (sheet : FactSheet) (call : CallSite) :
    String :=
  match call.caller with
  | some key => addressOfKey legend key
  | none => project.displayPath sheet.path

/-- One edge for each call that stays in the graph. -/
def callEdges (legend : Legend) (nodes : List GraphNode) (project : Project) : List CallEdge :=
  project.sheets.flatMap fun sheet => sheet.calls.filterMap fun call =>
    (callTarget? legend nodes call).map fun target =>
      ⟨callSource legend project sheet call, target, call.line⟩

/-- The first edge between each two addresses. -/
def distinctEdges (edges : List CallEdge) : List CallEdge :=
  edges.foldl (fun kept e =>
    if kept.any fun k => k.source == e.source && k.target == e.target then kept
    else kept ++ [e]) []

/-- Functions that are not exported and that nothing calls. -/
def orphansOf (nodes : List GraphNode) (edges : List CallEdge) : List String :=
  let calls := CallGraph.ofEdges edges
  (nodes.filter fun n =>
    n.kind == .functionNode && !n.exported && calls.isUncalled n.code).map (·.code)

/-- The methods of all classes with their sites, in order; constructors are left out. -/
def methodSites (project : Project) : List (String × DuplicateSite) :=
  project.sheets.flatMap fun s => s.classes.flatMap fun c =>
    (c.methods.filter (·.1 != "constructor")).map fun (name, line) =>
      (name, ⟨c.name, project.relative s.path, line⟩)

/-- Method names that at least two classes declare, with all their sites. -/
def findDuplicates (project : Project) : List (String × List DuplicateSite) :=
  let sites := methodSites project
  (Text.sortedDistinct (sites.map (·.1))).filterMap fun name =>
    let own := (sites.filter (·.1 == name)).map (·.2)
    if 2 ≤ (own.map fun s => (s.owner, s.file)).eraseDups.length then some (name, own) else none

def build (project : Project) : SymbolGraph :=
  let legend := Legend.ofNames (declaredNames project)
  let nodes := buildNodes legend project
  let edges := distinctEdges (callEdges legend nodes project)
  { legend := legend, nodes := nodes, edges := edges
    orphans := orphansOf nodes edges, duplicates := findDuplicates project }

end ScriptSurvey.SymbolGraph
