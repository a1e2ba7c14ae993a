import ScriptSurvey.Graph.Lookup
import ScriptSurvey.Proofs.CallEdges
import ScriptSurvey.Proofs.CallNeighbours
import ScriptSurvey.Proofs.GraphNodes
import ScriptSurvey.Proofs.TextCuts

/-!
# Looking up printed addresses

Every address that a graph prints, the code of a node or that of one of its methods behind the code
of the node, is found again and leads to that node. The context of a symbol lists the addresses on
the other ends of its edges, in order and each once.
-/
namespace ScriptSurvey.SymbolGraph

/-- The code has no separator of members and no white space. -/
structure PlainCode (code : String) : Prop where
  noDot : '.' ∉ code.toList
  noBlank : ∀ c ∈ code.toList, Text.isBlank c = false

lemma all_plain_iff (code : String) :
    (code.toList.all fun c => c != '.' && !Text.isBlank c) = true ↔ PlainCode code := by
  simp only [List.all_eq_true, Bool.and_eq_true, bne_iff_ne, Bool.not_eq_true']
  constructor
  · intro hplain
    exact ⟨fun hdot => (hplain _ hdot).1 rfl, fun c hc => (hplain c hc).2⟩
  · intro hplain c hc
    refine ⟨?_, hplain.noBlank c hc⟩
    rintro rfl
    exact hplain.noDot hc

instance : DecidablePred PlainCode := fun code => decidable_of_iff _ (all_plain_iff code)

/-- The context lists the other ends of all edges at its address, in order and each once. -/
structure HasNeighbours (graph : SymbolGraph) (context : SymbolContext) : Prop where
  callers_sorted : context.callers.Pairwise (· < ·)
  callees_sorted : context.callees.Pairwise (· < ·)
  mem_callers_iff : ∀ address, address ∈ context.callers ↔
    ∃ e ∈ graph.edges, e.target = context.address ∧ e.source = address
  mem_callees_iff : ∀ address, address ∈ context.callees ↔
    ∃ e ∈ graph.edges, e.source = context.address ∧ e.target = address

def context (graph : SymbolGraph) (r : Resolved) : SymbolContext :=
  ⟨r.address, r.name, r.node, graph.neighbours .incoming r.address,
    graph.neighbours .outgoing r.address⟩

lemma hasNeighbours_context (graph : SymbolGraph) (r : Resolved) :
    graph.HasNeighbours (graph.context r) :=
  ⟨Text.pairwise_sortedDistinct _, Text.pairwise_sortedDistinct _,
    fun _ => mem_neighbours_iff graph .incoming, fun _ => mem_neighbours_iff graph .outgoing⟩

lemma hasNeighbours_of_lookup {graph : SymbolGraph} {query : String} {found : SymbolContext}
    (h : graph.lookup query = .ok found) : graph.HasNeighbours found := by
  rw [lookup] at h
  split at h
  case h_1 r _ =>
    obtain rfl := Except.ok.inj h
    exact hasNeighbours_context graph r
  case h_2 => cases h

lemma lookup_of_resolve? {graph : SymbolGraph} {query : String} {r : Resolved}
    (hblank : ∀ c ∈ query.toList, Text.isBlank c = false) (h : resolve? graph query = some r) :
    graph.lookup query = .ok (graph.context r) := by
  rw [lookup, Text.strip_eq_self hblank, String.ofList_toList]
  simp only [h]
  rfl

lemma resolve?_of_noDot {graph : SymbolGraph} {query : String} (hdot : '.' ∉ query.toList) :
    resolve? graph query = (resolveNode? graph query).or (resolveMethod? graph query) := by
  rw [resolve?, Text.splitOnce_eq_none hdot]

/-! ## Printed addresses -/

section

variable {project : Project} {node : GraphNode}

lemma resolve?_legend_of_codeOf? {name code : String}
    (h : (build project).legend.codeOf? name = some code) :
    (build project).legend.resolve? code = some code := by
  have hlegend := consistent_build project
  exact hlegend.resolve?_of_mem_codes (hlegend.mem_codes_of_codeOf? h)

lemma resolveNode?_code (hnode : node ∈ (build project).nodes) :
    resolveNode? (build project) node.code = some ⟨node.code, node.name, node⟩ := by
  rw [resolveNode?, resolve?_legend_of_codeOf? (codeOf?_name_of_mem_nodes hnode),
    Option.bind_some, node?_eq_some_iff.mpr ⟨hnode, rfl⟩, Option.map_some]

lemma resolveMember?_codes (hnode : node ∈ (build project).nodes) {method name : String}
    (hmethod : method ∈ node.methods) (hname : (build project).legend.codeOf? name = some method) :
    resolveMember? (build project) node.code method =
      some ⟨node.code ++ "." ++ method, node.name ++ "." ++ name, node⟩ := by
  have hmember := (consistent_build project).codeOf?_iff_nameOf?.mp hname
  rw [resolveMember?, resolve?_legend_of_codeOf? (codeOf?_name_of_mem_nodes hnode),
    Option.bind_some, node?_eq_some_iff.mpr ⟨hnode, rfl⟩, Option.bind_some,
    resolve?_legend_of_codeOf? hname, Option.bind_some, if_pos (by simpa using hmethod), hmember,
    Option.map_some]

lemma lookup_code (hnode : node ∈ (build project).nodes) (hcode : PlainCode node.code) :
    (build project).lookup node.code =
      .ok ((build project).context ⟨node.code, node.name, node⟩) := by
  refine lookup_of_resolve? hcode.noBlank ?_
  rw [resolve?_of_noDot hcode.noDot, resolveNode?_code hnode, Option.some_or]

/-! ### Plain codes -/

variable (hplain : ∀ e ∈ (build project).legend.entries, PlainCode e.code)

include hplain

lemma plainCode_of_codeOf? {name code : String}
    (h : (build project).legend.codeOf? name = some code) : PlainCode code :=
  hplain _ ((consistent_build project).codeOf?_eq_some_iff.mp h)

lemma lookup_member (hnode : node ∈ (build project).nodes) {method name : String}
    (hmethod : method ∈ node.methods) (hname : (build project).legend.codeOf? name = some method) :
    (build project).lookup (node.code ++ "." ++ method) = .ok ((build project).context
      ⟨node.code ++ "." ++ method, node.name ++ "." ++ name, node⟩) := by
  have howner := plainCode_of_codeOf? hplain (codeOf?_name_of_mem_nodes hnode)
  have hmember := plainCode_of_codeOf? hplain hname
  have hresolve : resolve? (build project) (node.code ++ "." ++ method) =
      some ⟨node.code ++ "." ++ method, node.name ++ "." ++ name, node⟩ := by
    rw [resolve?, Text.splitOnce_append howner.noDot]
    exact resolveMember?_codes hnode hmethod hname
  have hblank : ∀ c ∈ (node.code ++ "." ++ method).toList, Text.isBlank c = false := by
    intro c hc
    have hparts : c ∈ node.code.toList ∨ c = '.' ∨ c ∈ method.toList := by simpa using hc
    rcases hparts with hfront | rfl | hback
    · exact howner.noBlank c hfront
    · decide
    · exact hmember.noBlank c hback
  exact lookup_of_resolve? hblank hresolve

end

/-- If no code of a project has a dot or white space, then the code of each node is found and leads
to the node, and so does the code of each of its methods behind that of the node, under the names of
both. Whatever is found lists all its neighbours. -/
theorem lookup_printed (project : Project)
    (hplain : ∀ e ∈ (build project).legend.entries, PlainCode e.code) :
    (∀ node ∈ (build project).nodes,
      (∃ found, (build project).lookup node.code = .ok found ∧ found.address = node.code ∧
        found.name = node.name ∧ found.node = node) ∧
      ∀ method ∈ node.methods, ∃ name, (build project).legend.nameOf? method = some name ∧
        ∃ found, (build project).lookup (node.code ++ "." ++ method) = .ok found ∧
          found.address = node.code ++ "." ++ method ∧
          found.name = node.name ++ "." ++ name ∧ found.node = node) ∧
    ∀ query found, (build project).lookup query = .ok found →
      (build project).HasNeighbours found := by
  refine ⟨fun node hnode => ⟨?_, ?_⟩, fun _ _ => hasNeighbours_of_lookup⟩
  · have hcode := plainCode_of_codeOf? hplain (codeOf?_name_of_mem_nodes hnode)
    exact ⟨_, lookup_code hnode hcode, rfl, rfl, rfl⟩
  · intro method hmethod
    obtain ⟨name, hname⟩ := exists_codeOf?_of_mem_methods hnode hmethod
    have hmember := (consistent_build project).codeOf?_iff_nameOf?.mp hname
    exact ⟨name, hmember, _, lookup_member hplain hnode hmethod hname, rfl, rfl, rfl⟩

/-- A function calls a method through a variable that is named after its class. -/
def serviceProject : Project where
  root := ⟨true, ["app"]⟩
  sheets := [{ FactSheet.failed ⟨true, ["app", "a.js"]⟩ .javaScript 9 with
    parseFailed := false
    declarations := [⟨"UserService", .classDef, none, 1, false, false⟩,
      ⟨"findUser", .method, some "UserService", 2, false, false⟩,
      ⟨"main", .function, none, 6, false, false⟩]
    classes := [⟨"UserService", 1, none, [("findUser", 2)], ["users"]⟩]
    calls := [⟨some "main", "findUser", some "userService", 7⟩] }]

def serviceNode : GraphNode where
  code := "US"
  name := "UserService"
  kind := .classNode
  file := ⟨false, ["a.js"]⟩
  line := 1
  exported := false
  methods := ["fU"]
  properties := ["users"]
  parent := none

lemma serviceNode_mem_nodes : serviceNode ∈ (build serviceProject).nodes := by
  have hcode : (build serviceProject).legend.codeOf? "UserService" = some "US" := by
    decide +kernel
  have hbare : declaredNode? (nodeSites serviceProject) "UserService" "US" =
      some { serviceNode with methods := [], properties := [] } := by
    decide +kernel
  have hmembers : completed serviceProject { serviceNode with methods := [], properties := [] } =
      serviceNode := by
    decide +kernel
  exact mem_nodes_iff.mpr ⟨_, ⟨_, _, hcode, hbare⟩, hmembers⟩

lemma exists_edge_serviceProject :
    ∃ e ∈ (build serviceProject).edges, e.source = "ma" ∧ e.target = "US.fU" := by
  have hvariable : (build serviceProject).legend.codeOf? "userService" = none := by
    decide +kernel
  have hclass : (build serviceProject).legend.codeOf? (capitalized "userService") = some "US" := by
    decide +kernel
  have hmember : (build serviceProject).legend.codeOf? "findUser" = some "fU" := by
    decide +kernel
  have hnode : ∃ n ∈ (build serviceProject).nodes, n.code = "US" :=
    ⟨_, serviceNode_mem_nodes, rfl⟩
  refine (exists_edge_iff serviceProject "ma" "US.fU").mpr
    ⟨(serviceProject.sheets[0], ⟨some "main", "findUser", some "userService", 7⟩), ?_, ?_⟩
  · decide +kernel
  · rw [joins, Bool.and_eq_true, beq_iff_eq, beq_iff_eq]
    constructor
    · decide +kernel
    · simpa [callTarget?, nodeCode?, hvariable, hclass, hmember] using hnode

theorem lookup_printed_service :
    (∀ e ∈ (build serviceProject).legend.entries, PlainCode e.code) ∧
      ∃ found, (build serviceProject).lookup "US.fU" = .ok found ∧
        found.name = "UserService.findUser" ∧ found.node = serviceNode ∧
        "ma" ∈ found.callers := by
  have hplain : ∀ e ∈ (build serviceProject).legend.entries, PlainCode e.code := by
    decide +kernel
  obtain ⟨hprinted, hneighbours⟩ := lookup_printed serviceProject hplain
  obtain ⟨name, hname, found, hfound, haddress, hfoundName, hnode⟩ :=
    (hprinted _ serviceNode_mem_nodes).2 "fU" (List.mem_singleton.mpr rfl)
  have hmethod : (build serviceProject).legend.nameOf? "fU" = some "findUser" := by
    decide +kernel
  obtain rfl : name = "findUser" := Option.some.inj (hname.symm.trans hmethod)
  simp only [serviceNode, String.reduceAppend] at hfound haddress hfoundName
  obtain ⟨e, he, hsource, htarget⟩ := exists_edge_serviceProject
  have hcaller := ((hneighbours _ _ hfound).mem_callers_iff "ma").mpr
    ⟨e, he, htarget.trans haddress.symm, hsource⟩
  exact ⟨hplain, found, hfound, hfoundName, hnode, hcaller⟩

end ScriptSurvey.SymbolGraph
