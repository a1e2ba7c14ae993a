import Mathlib
import ScriptSurvey.Proofs.SymbolLookup

/-!
# Looking up names

Names and codes share one space of queries, and codes come first. So a name leads to its own node
unless it is spelled like the code of another name; in that case it is read as this code.
-/
namespace ScriptSurvey

namespace Legend

def Shadowed (legend : Legend) (name : String) : Prop :=
  ∃ other, other ≠ name ∧ legend.codeOf? other = some name

namespace Consistent

variable {legend : Legend} {name code : String}

lemma mem_codes_iff (h : legend.Consistent) :
    code ∈ legend.codes ↔ ∃ name, legend.codeOf? name = some code := by
  constructor
  · intro hcode
    obtain ⟨e, he, rfl⟩ := List.mem_map.mp hcode
    exact ⟨e.name, h.codeOf?_eq_some_iff.mpr he⟩
  · rintro ⟨name, hname⟩
    exact h.mem_codes_of_codeOf? hname

lemma resolve?_of_notMem_codes (h : legend.Consistent) (hname : name ∉ legend.codes) :
    legend.resolve? name = legend.codeOf? name := by
  have hnone : legend.byCode.lookup name = none := (h.byCode.lookup_eq_none_iff name).mpr hname
  rw [resolve?, hnone]

lemma resolve?_of_not_shadowed (h : legend.Consistent) (hcode : legend.codeOf? name = some code)
    (hfree : ¬ legend.Shadowed name) : legend.resolve? name = some code := by
  by_cases hmem : name ∈ legend.codes
  · obtain ⟨owner, howner⟩ := h.mem_codes_iff.mp hmem
    have hself : owner = name := by
      by_contra hne
      exact hfree ⟨owner, hne, howner⟩
    rw [hself, hcode] at howner
    rw [h.resolve?_of_mem_codes hmem, Option.some.inj howner]
  · rw [h.resolve?_of_notMem_codes hmem, hcode]

end Consistent

end Legend

namespace SymbolGraph

/-- What is found is the context of what the query resolves to. -/
lemma exists_resolve?_of_lookup {graph : SymbolGraph} {query : String} {found : SymbolContext}
    (hblank : ∀ c ∈ query.toList, Text.isBlank c = false) (h : graph.lookup query = .ok found) :
    ∃ r, resolve? graph query = some r ∧ graph.context r = found := by
  rw [lookup, Text.strip_eq_self hblank, String.ofList_toList] at h
  split at h
  case h_1 r hr => exact ⟨r, hr, Except.ok.inj h⟩
  case h_2 => cases h

/-- A method is shown under the name of its owner and its own. -/
lemma dot_mem_name_of_resolveMethod? {graph : SymbolGraph} {query : String} {r : Resolved}
    (h : resolveMethod? graph query = some r) : '.' ∈ r.name.toList := by
  obtain ⟨member, -, h⟩ := Option.bind_eq_some_iff.mp h
  obtain ⟨owner, -, h⟩ := Option.bind_eq_some_iff.mp h
  obtain ⟨ownerCode, -, h⟩ := Option.bind_eq_some_iff.mp h
  obtain ⟨node, -, h⟩ := Option.bind_eq_some_iff.mp h
  obtain ⟨memberCode, -, h⟩ := Option.bind_eq_some_iff.mp h
  split_ifs at h
  obtain ⟨memberName, -, rfl⟩ := Option.map_eq_some_iff.mp h
  simp

section

variable {project : Project} {node : GraphNode}

lemma lookup_of_not_shadowed (hnode : node ∈ (build project).nodes) (hplain : PlainCode node.name)
    (hfree : ¬ (build project).legend.Shadowed node.name) :
    (build project).lookup node.name =
      .ok ((build project).context ⟨node.code, node.name, node⟩) := by
  have hcode := codeOf?_name_of_mem_nodes hnode
  have hquery := (consistent_build project).resolve?_of_not_shadowed hcode hfree
  have hresolve : resolveNode? (build project) node.name = some ⟨node.code, node.name, node⟩ := by
    rw [resolveNode?, hquery, Option.bind_some, node?_eq_some_iff.mpr ⟨hnode, rfl⟩,
      Option.map_some]
  refine lookup_of_resolve? hplain.noBlank ?_
  rw [resolve?_of_noDot hplain.noDot, hresolve, Option.some_or]

/-- A text that is the code of one name never leads to the node of another one. -/
lemma name_ne_of_lookup_code {query other : String} {found : SymbolContext}
    (hplain : PlainCode query) (hother : (build project).legend.codeOf? other = some query)
    (hne : other ≠ query) (hfound : (build project).lookup query = .ok found) :
    found.name ≠ query := by
  obtain ⟨r, hr, rfl⟩ := exists_resolve?_of_lookup hplain.noBlank hfound
  rw [resolve?_of_noDot hplain.noDot, Option.or_eq_some_iff] at hr
  rcases hr with hr | ⟨-, hr⟩
  · rw [resolveNode?, resolve?_legend_of_codeOf? hother, Option.bind_some,
      Option.map_eq_some_iff] at hr
    obtain ⟨n, hn, rfl⟩ := hr
    obtain ⟨hmem, hcode⟩ := node?_eq_some_iff.mp hn
    have hname : n.name = other :=
      (consistent_build project).codeOf?_inj (codeOf?_name_of_mem_nodes hmem) (hcode ▸ hother)
    change n.name ≠ query
    rw [hname]
    exact hne
  · intro hname
    apply hplain.noDot
    rw [← hname]
    exact dot_mem_name_of_resolveMethod? hr

end

/-- A node whose name has no dot and no white space is found by its name with all its context, unless
another name has a code of that spelling. In that case the query is read as the code: it leads to the
node of the other name if there is one, and never to anything of the name asked for. -/
theorem lookup_name {project : Project} {node : GraphNode} (hnode : node ∈ (build project).nodes)
    (hplain : PlainCode node.name) :
    (¬ (build project).legend.Shadowed node.name → (build project).lookup node.name =
      .ok ((build project).context ⟨node.code, node.name, node⟩)) ∧
    ∀ other, other ≠ node.name → (build project).legend.codeOf? other = some node.name →
      (∀ n ∈ (build project).nodes, n.name = other → (build project).lookup node.name =
        .ok ((build project).context ⟨n.code, n.name, n⟩)) ∧
      ∀ found, (build project).lookup node.name = .ok found → found.name ≠ node.name := by
  refine ⟨lookup_of_not_shadowed hnode hplain, fun other hne hother => ⟨?_, ?_⟩⟩
  · rintro n hn rfl
    have hcode : n.code = node.name :=
      Option.some.inj ((codeOf?_name_of_mem_nodes hn).symm.trans hother)
    rw [← hcode] at hplain ⊢
    exact lookup_code hn hplain
  · exact fun found => name_ne_of_lookup_code hplain hother hne

/-- The code of the first class is the name of the second one. -/
def shadowingProject : Project where
  root := ⟨true, ["app"]⟩
  sheets := [{ FactSheet.failed ⟨true, ["app", "a.js"]⟩ .javaScript 9 with
    parseFailed := false
    declarations := [⟨"UserService", .classDef, none, 1, false, false⟩,
      ⟨"US", .classDef, none, 5, false, false⟩]
    classes := [⟨"UserService", 1, none, [], []⟩, ⟨"US", 5, none, [], []⟩] }]

def shadowingNode : GraphNode where
  code := "US"
  name := "UserService"
  kind := .classNode
  file := ⟨false, ["a.js"]⟩
  line := 1
  exported := false
  methods := []
  properties := []
  parent := none

def shadowedNode : GraphNode := { shadowingNode with code := "US1", name := "US", line := 5 }

lemma shadowingProject_codes :
    (build shadowingProject).legend.codeOf? "UserService" = some "US" ∧
      (build shadowingProject).legend.codeOf? "US" = some "US1" := by
  cbv

lemma shadowingNode_mem_nodes : shadowingNode ∈ (build shadowingProject).nodes := by
  have hbare : declaredNode? (nodeSites shadowingProject) "UserService" "US" =
      some shadowingNode := by
    cbv
  have hmembers : completed shadowingProject shadowingNode = shadowingNode := by
    cbv
  exact mem_nodes_iff.mpr ⟨_, ⟨_, _, shadowingProject_codes.1, hbare⟩, hmembers⟩

lemma shadowedNode_mem_nodes : shadowedNode ∈ (build shadowingProject).nodes := by
  have hbare : declaredNode? (nodeSites shadowingProject) "US" "US1" = some shadowedNode := by
    cbv
  have hmembers : completed shadowingProject shadowedNode = shadowedNode := by
    cbv
  exact mem_nodes_iff.mpr ⟨_, ⟨_, _, shadowingProject_codes.2, hbare⟩, hmembers⟩

theorem lookup_name_shadowing :
    PlainCode shadowingNode.name ∧ PlainCode shadowedNode.name ∧
      (build shadowingProject).lookup "UserService" =
        .ok ((build shadowingProject).context ⟨"US", "UserService", shadowingNode⟩) ∧
      (build shadowingProject).lookup "US" =
        .ok ((build shadowingProject).context ⟨"US", "UserService", shadowingNode⟩) := by
  have hplain : PlainCode shadowingNode.name := by decide
  have hshort : PlainCode shadowedNode.name := by decide
  have hfree : ¬ (build shadowingProject).legend.Shadowed "UserService" := by
    rintro ⟨other, -, hother⟩
    have hmem := (consistent_build shadowingProject).mem_codes_of_codeOf? hother
    have hcodes : (build shadowingProject).legend.codes = ["US", "US1"] := by cbv
    exact absurd (hcodes ▸ hmem) (by decide)
  have hfirst := (lookup_name shadowingNode_mem_nodes hplain).1 hfree
  have hsecond := (lookup_name shadowedNode_mem_nodes hshort).2 "UserService" (by decide)
    shadowingProject_codes.1
  exact ⟨hplain, hshort, hfirst, hsecond.1 shadowingNode shadowingNode_mem_nodes rfl⟩

/-- Not every node is found by its name. -/
theorem name_without_context :
    ¬ ∀ project : Project, ∀ node ∈ (build project).nodes, PlainCode node.name →
      ∃ found, (build project).lookup node.name = .ok found ∧ found.name = node.name := by
  intro hall
  have hplain : PlainCode shadowedNode.name := by decide
  obtain ⟨found, hfound, hname⟩ := hall _ _ shadowedNode_mem_nodes hplain
  exact name_ne_of_lookup_code hplain shadowingProject_codes.1 (by decide) hfound hname

end SymbolGraph

end ScriptSurvey
