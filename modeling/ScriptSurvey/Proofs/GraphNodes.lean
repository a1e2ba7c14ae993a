import ScriptSurvey.Graph.Build
import ScriptSurvey.Proofs.LegendTables

/-!
# The nodes of a symbol graph

Each name that a function or class declares has one node, under its code. The first of these
declarations gives the node its kind and place, and any of them may export it. Members are added
afterwards and change none of this.
-/
namespace ScriptSurvey.SymbolGraph

/-! ## Nodes from declarations -/

def siteCode? (legend : Legend) (site : NodeSite) : Option String :=
  legend.codeOf? site.declaration.name

def firstNode (code : String) (site : NodeSite) : GraphNode where
  code := code
  name := site.declaration.name
  kind := site.kind
  file := site.file
  line := site.declaration.line
  exported := site.declaration.exported
  methods := []
  properties := []
  parent := none

/-- A later declaration may export the node of its code. -/
def absorb (code : String) (exported : Bool) (node : GraphNode) : GraphNode :=
  if node.code == code then { node with exported := node.exported || exported } else node

/-- The node that all declarations of a name make, without members. -/
def declaredNode? (sites : List NodeSite) (name code : String) : Option GraphNode :=
  (sites.find? (·.declaration.name == name)).map fun first => { firstNode code first with
    exported := sites.any fun s => s.declaration.name == name && s.declaration.exported }

section

variable {legend : Legend} {nodes : List GraphNode} {sites : List NodeSite} {site : NodeSite}
  {name code : String}

lemma any_code_iff : (nodes.any (·.code == code)) = true ↔ code ∈ nodes.map (·.code) := by
  simp only [List.any_eq_true, beq_iff_eq, List.mem_map]

lemma find?_eq_none_iff_notMem :
    nodes.find? (·.code == code) = none ↔ code ∉ nodes.map (·.code) := by
  simp only [List.find?_eq_none, beq_iff_eq, List.mem_map, not_exists, not_and]

/-! ### One more declaration -/

@[simp] lemma absorb_code (exported : Bool) (node : GraphNode) :
    (absorb code exported node).code = node.code := by
  rw [absorb]
  split_ifs <;> rfl

lemma absorb_of_ne {node : GraphNode} (h : node.code ≠ code) (exported : Bool) :
    absorb code exported node = node := by
  rw [absorb, if_neg (by simpa using h)]

lemma find?_map_absorb (exported : Bool) (other : String) :
    (nodes.map (absorb other exported)).find? (·.code == code) =
      (nodes.find? (·.code == code)).map (absorb other exported) := by
  rw [List.find?_map]
  refine congrArg (fun p => (nodes.find? p).map (absorb other exported)) (funext fun node => ?_)
  rw [Function.comp_apply, absorb_code]

lemma addSite_of_eq_none (h : siteCode? legend site = none) : addSite legend nodes site = nodes := by
  rw [siteCode?] at h
  rw [addSite, h]

lemma addSite_of_mem (h : siteCode? legend site = some code) (hmem : code ∈ nodes.map (·.code)) :
    addSite legend nodes site = nodes.map (absorb code site.declaration.exported) := by
  rw [siteCode?] at h
  simp only [addSite, h, if_pos (any_code_iff.mpr hmem)]
  rfl

lemma addSite_of_notMem (h : siteCode? legend site = some code)
    (hmem : code ∉ nodes.map (·.code)) :
    addSite legend nodes site = nodes ++ [firstNode code site] := by
  rw [siteCode?] at h
  simp only [addSite, h, if_neg (mt any_code_iff.mp hmem)]
  rfl

lemma find?_addSite_of_ne (h : siteCode? legend site ≠ some code) :
    (addSite legend nodes site).find? (·.code == code) = nodes.find? (·.code == code) := by
  cases hsite : siteCode? legend site with
  | none => rw [addSite_of_eq_none hsite]
  | some other =>
    have hother : other ≠ code := by
      rintro rfl
      exact h hsite
    by_cases hmem : other ∈ nodes.map (·.code)
    · rw [addSite_of_mem hsite hmem, find?_map_absorb]
      cases hfind : nodes.find? (·.code == code) with
      | none => rfl
      | some node =>
        have hnode : node.code = code := by simpa using List.find?_some hfind
        rw [Option.map_some, absorb_of_ne (by rw [hnode]; exact hother.symm)]
    · rw [addSite_of_notMem hsite hmem, List.find?_append]
      simp [firstNode, hother]

lemma find?_addSite_of_eq (h : siteCode? legend site = some code) :
    (addSite legend nodes site).find? (·.code == code) =
      some (((nodes.find? (·.code == code)).map (absorb code site.declaration.exported)).getD
        (firstNode code site)) := by
  by_cases hmem : code ∈ nodes.map (·.code)
  · obtain ⟨node, hnode⟩ : ∃ node, nodes.find? (·.code == code) = some node := by
      rw [← Option.ne_none_iff_exists', ne_eq, find?_eq_none_iff_notMem, not_not]
      exact hmem
    rw [addSite_of_mem h hmem, find?_map_absorb, hnode]
    rfl
  · rw [addSite_of_notMem h hmem, List.find?_append, find?_eq_none_iff_notMem.mpr hmem]
    simp [firstNode]

/-! ### The node of a name -/

lemma declaredNode?_name {node : GraphNode} (h : declaredNode? sites name code = some node) :
    node.name = name := by
  obtain ⟨first, hfirst, rfl⟩ := Option.map_eq_some_iff.mp h
  have hname := List.find?_some hfirst
  exact beq_iff_eq.mp hname

lemma declaredNode?_code {node : GraphNode} (h : declaredNode? sites name code = some node) :
    node.code = code := by
  obtain ⟨first, -, rfl⟩ := Option.map_eq_some_iff.mp h
  rfl

lemma declaredNode?_methods {node : GraphNode} (h : declaredNode? sites name code = some node) :
    node.methods = [] := by
  obtain ⟨first, -, rfl⟩ := Option.map_eq_some_iff.mp h
  rfl

lemma declaredNode?_concat_of_ne (h : site.declaration.name ≠ name) :
    declaredNode? (sites ++ [site]) name code = declaredNode? sites name code := by
  have hother : (site.declaration.name == name) = false := beq_false_of_ne h
  simp [declaredNode?, List.find?_append, List.any_append, hother]

lemma declaredNode?_concat_of_eq (h : site.declaration.name = name) :
    declaredNode? (sites ++ [site]) name code =
      some (((declaredNode? sites name code).map (absorb code site.declaration.exported)).getD
        (firstNode code site)) := by
  cases hfirst : sites.find? (·.declaration.name == name) with
  | some first =>
    simp [declaredNode?, List.find?_append, List.any_append, hfirst, h, absorb, firstNode]
  | none =>
    have hnone : ∀ s ∈ sites, s.declaration.name ≠ name := by
      simpa using List.find?_eq_none.mp hfirst
    have hany : (sites.any fun s => s.declaration.name == name && s.declaration.exported) =
        false := by
      rw [List.any_eq_false]
      intro s hs
      simp [hnone s hs]
    simp [declaredNode?, List.find?_append, List.any_append, hfirst, h, hany, firstNode]

/-! ### All declarations -/

/-- Nodes stand in the order of their first declarations, and no two have the same code. -/
lemma codes_foldl_addSite (legend : Legend) (sites : List NodeSite) :
    (sites.foldl (addSite legend) []).map (·.code) =
      (sites.filterMap (siteCode? legend)).eraseDups := by
  -- from the right, since a declaration acts on the nodes of all declarations before it
  induction sites using List.reverseRecOn with
  | nil => rfl
  | append_singleton sites site ih =>
    rw [List.foldl_append, List.foldl_cons, List.foldl_nil, List.filterMap_append]
    cases hcode : siteCode? legend site with
    | none =>
      rw [addSite_of_eq_none hcode, ih, List.filterMap_cons_none hcode, List.filterMap_nil,
        List.append_nil]
    | some code =>
      rw [List.filterMap_cons_some hcode, List.filterMap_nil, eraseDups_concat, ← ih]
      split_ifs with hmem
      all_goals rw [← List.mem_eraseDups, ← ih] at hmem
      · rw [addSite_of_mem hcode hmem, List.map_map]
        exact List.map_congr_left fun node _ => absorb_code _ node
      · rw [addSite_of_notMem hcode hmem, List.map_append, List.map_singleton]
        rfl

/-- The node of a name is made by its declarations alone. -/
lemma find?_foldl_addSite (h : legend.Consistent) (hcode : legend.codeOf? name = some code)
    (sites : List NodeSite) :
    (sites.foldl (addSite legend) []).find? (·.code == code) = declaredNode? sites name code := by
  induction sites using List.reverseRecOn with
  | nil => rfl
  | append_singleton sites site ih =>
    rw [List.foldl_append, List.foldl_cons, List.foldl_nil]
    by_cases hname : site.declaration.name = name
    · have hsite : siteCode? legend site = some code := by rw [siteCode?, hname, hcode]
      rw [find?_addSite_of_eq hsite, ih, declaredNode?_concat_of_eq hname]
    · have hsite : siteCode? legend site ≠ some code := fun hother =>
        hname (h.codeOf?_inj hother hcode)
      rw [find?_addSite_of_ne hsite, ih, declaredNode?_concat_of_ne hname]

lemma mem_foldl_addSite_iff (h : legend.Consistent) {node : GraphNode} :
    node ∈ sites.foldl (addSite legend) [] ↔ ∃ name code,
      legend.codeOf? name = some code ∧ declaredNode? sites name code = some node := by
  constructor
  · intro hnode
    have hcodes := codes_foldl_addSite legend sites
    have hnodup : ((sites.foldl (addSite legend) []).map (·.code)).Nodup := by
      rw [hcodes]
      exact nodup_eraseDups _
    have hmem : node.code ∈ (sites.filterMap (siteCode? legend)).eraseDups := by
      rw [← hcodes]
      exact List.mem_map_of_mem hnode
    obtain ⟨site, -, hcode⟩ := List.mem_filterMap.mp (List.mem_eraseDups.mp hmem)
    refine ⟨site.declaration.name, node.code, hcode, ?_⟩
    rw [← find?_foldl_addSite h hcode sites]
    exact find?_eq_some_of_nodup_map hnodup hnode
  · rintro ⟨name, code, hcode, hnode⟩
    rw [← find?_foldl_addSite h hcode sites] at hnode
    exact List.mem_of_find?_eq_some hnode

end

/-! ## Members -/

section

variable {legend : Legend} {isNode : String → Bool} {classes : List ClassInfo} {node : GraphNode}

@[simp] lemma withMembers_code : (withMembers legend isNode classes node).code = node.code := by
  rw [withMembers]
  split <;> rfl

@[simp] lemma withMembers_name : (withMembers legend isNode classes node).name = node.name := by
  rw [withMembers]
  split <;> rfl

@[simp] lemma withMembers_kind : (withMembers legend isNode classes node).kind = node.kind := by
  rw [withMembers]
  split <;> rfl

@[simp] lemma withMembers_exported :
    (withMembers legend isNode classes node).exported = node.exported := by
  rw [withMembers]
  split <;> rfl

/-- A class node lists the codes of the methods of all classes that have its code. -/
lemma mem_methods_withMembers_iff (hnode : node.methods = []) {method : String} :
    method ∈ (withMembers legend isNode classes node).methods ↔ node.kind = .classNode ∧
      ∃ c ∈ classes, legend.codeOf? c.name = some node.code ∧
        ∃ m ∈ c.methods, legend.codeOf? m.1 = some method := by
  rw [withMembers]
  cases hkind : node.kind with
  | functionNode => simp [hnode]
  | classNode =>
    simp only [List.mem_eraseDups, List.mem_flatMap, List.mem_filterMap, List.mem_filter,
      beq_iff_eq, true_and, and_assoc]

end

/-! ## The nodes of a project -/

section

variable {project : Project} {node : GraphNode} {code : String}

lemma consistent_build (project : Project) : (build project).legend.Consistent :=
  Legend.consistent_ofNames _

def completed (project : Project) (bare : GraphNode) : GraphNode :=
  withMembers (build project).legend
    (fun code => (bareNodes (build project).legend project).any (·.code == code))
    (classInfos project) bare

lemma mem_nodes_iff : node ∈ (build project).nodes ↔
    ∃ bare, (∃ name code, (build project).legend.codeOf? name = some code ∧
      declaredNode? (nodeSites project) name code = some bare) ∧ completed project bare = node := by
  change node ∈ buildNodes (build project).legend project ↔ _
  rw [buildNodes, List.mem_mergeSort, List.mem_map]
  simp only [bareNodes, mem_foldl_addSite_iff (consistent_build project)]
  rfl

lemma nodup_codes_nodes (project : Project) : ((build project).nodes.map (·.code)).Nodup := by
  have hperm : ((build project).nodes.map (·.code)).Perm
      ((bareNodes (build project).legend project).map (·.code)) := by
    refine ((List.mergeSort_perm _ _).map _).trans (List.Perm.of_eq ?_)
    rw [List.map_map]
    exact List.map_congr_left fun _ _ => withMembers_code
  rw [hperm.nodup_iff, bareNodes, codes_foldl_addSite]
  exact nodup_eraseDups _

lemma exists_declaredNode? (h : node ∈ (build project).nodes) :
    ∃ bare, (build project).legend.codeOf? node.name = some node.code ∧
      declaredNode? (nodeSites project) node.name node.code = some bare ∧
      completed project bare = node := by
  obtain ⟨bare, ⟨name, code, hcode, hbare⟩, rfl⟩ := mem_nodes_iff.mp h
  have hname : (completed project bare).name = name :=
    withMembers_name.trans (declaredNode?_name hbare)
  have hcode' : (completed project bare).code = code :=
    withMembers_code.trans (declaredNode?_code hbare)
  rw [hname, hcode']
  exact ⟨bare, hcode, hbare, rfl⟩

lemma codeOf?_name_of_mem_nodes (h : node ∈ (build project).nodes) :
    (build project).legend.codeOf? node.name = some node.code := by
  obtain ⟨bare, hcode, -, -⟩ := exists_declaredNode? h
  exact hcode

lemma exists_codeOf?_of_mem_methods {method : String} (h : node ∈ (build project).nodes)
    (hmethod : method ∈ node.methods) :
    ∃ name, (build project).legend.codeOf? name = some method := by
  obtain ⟨bare, -, hbare, rfl⟩ := exists_declaredNode? h
  obtain ⟨-, _, -, -, m, -, hm⟩ :=
    (mem_methods_withMembers_iff (declaredNode?_methods hbare)).mp hmethod
  exact ⟨m.1, hm⟩

lemma node?_eq_some_iff :
    (build project).node? code = some node ↔ node ∈ (build project).nodes ∧ node.code = code := by
  rw [node?]
  constructor
  · intro h
    exact ⟨List.mem_of_find?_eq_some h, by simpa using List.find?_some h⟩
  · rintro ⟨h, rfl⟩
    exact find?_eq_some_of_nodup_map (nodup_codes_nodes project) h

end

end ScriptSurvey.SymbolGraph
