import ScriptSurvey.Proofs.CallEdges
import ScriptSurvey.Proofs.CallNeighbours
import ScriptSurvey.Proofs.GraphNodes
import ScriptSurvey.Proofs.LivenessDeclarations

/-!
# Orphans

The graph finds its orphans by codes and addresses, the liveness report its dead functions by plain
names. Codes stand for names one to one, and an address without a dot is that of a node, so both
speak of the same functions: those that no declaration exports and no plain call names.
-/
namespace ScriptSurvey.SymbolGraph

/-- The declarations that make nodes, in the order of the sheets. -/
def nodeDeclarations (project : Project) : List Declaration :=
  project.sheets.flatMap fun s => s.declarations.filter (·.kind != .method)

def firstKind? (project : Project) (name : String) : Option DeclarationKind :=
  ((nodeDeclarations project).find? (·.name == name)).map (·.kind)

def NeverExported (project : Project) (name : String) : Prop :=
  ∀ s ∈ project.sheets, ∀ d ∈ s.declarations, d.kind ≠ .method → d.name = name →
    d.exported = false

instance (project : Project) (name : String) : Decidable (NeverExported project name) :=
  inferInstanceAs (Decidable (∀ s ∈ project.sheets, ∀ d ∈ s.declarations, d.kind ≠ .method →
    d.name = name → d.exported = false))

def NeverCalled (project : Project) (name : String) : Prop :=
  ∀ s ∈ project.sheets, ∀ c ∈ s.calls, c.qualifier = none → c.callee ≠ name

/-! ## Declarations and nodes -/

section

variable {project : Project} {node : GraphNode} {name code : String}

lemma nodeKind?_eq_functionNode_iff (kind : DeclarationKind) :
    nodeKind? kind = some .functionNode ↔ kind = .function := by
  cases kind <;> simp [nodeKind?]

lemma nodeKind?_of_mem_nodeSites {site : NodeSite} (h : site ∈ nodeSites project) :
    nodeKind? site.declaration.kind = some site.kind := by
  simp only [nodeSites, List.mem_flatMap, List.mem_filterMap, Option.map_eq_some_iff] at h
  obtain ⟨_, _, d, _, kind, hkind, rfl⟩ := h
  exact hkind

lemma map_declaration_nodeSites (project : Project) :
    (nodeSites project).map (·.declaration) = nodeDeclarations project := by
  rw [nodeSites, nodeDeclarations, List.map_flatMap]
  refine congrArg (List.flatMap · project.sheets) (funext fun s => ?_)
  rw [List.map_filterMap, ← List.filterMap_eq_filter]
  refine congrArg (List.filterMap · s.declarations) (funext fun d => ?_)
  rw [Option.guard]
  cases d.kind <;> rfl

lemma firstKind?_of_declaredNode? (h : declaredNode? (nodeSites project) name code = some node) :
    (firstKind? project name).bind nodeKind? = some node.kind := by
  obtain ⟨first, hfirst, rfl⟩ := Option.map_eq_some_iff.mp h
  have hkind := nodeKind?_of_mem_nodeSites (List.mem_of_find?_eq_some hfirst)
  rw [firstKind?, ← map_declaration_nodeSites, List.find?_map]
  change (Option.map _ (Option.map _ ((nodeSites project).find? (·.declaration.name == name)))).bind
    nodeKind? = _
  rw [hfirst]
  exact hkind

lemma kind_eq_functionNode_iff (h : declaredNode? (nodeSites project) name code = some node) :
    node.kind = .functionNode ↔ firstKind? project name = some .function := by
  have hkind := firstKind?_of_declaredNode? h
  constructor
  · intro hfunction
    rw [hfunction] at hkind
    obtain ⟨kind, hfirst, hnode⟩ := Option.bind_eq_some_iff.mp hkind
    rw [hfirst, (nodeKind?_eq_functionNode_iff kind).mp hnode]
  · intro hfirst
    rw [hfirst] at hkind
    exact (Option.some.inj hkind).symm

lemma exported_eq_false_iff (h : declaredNode? (nodeSites project) name code = some node) :
    node.exported = false ↔ NeverExported project name := by
  obtain ⟨first, -, rfl⟩ := Option.map_eq_some_iff.mp h
  have hany : ((nodeSites project).any fun s =>
      s.declaration.name == name && s.declaration.exported) =
        (nodeDeclarations project).any fun d => d.name == name && d.exported := by
    rw [← map_declaration_nodeSites, List.any_map]
    rfl
  change ((nodeSites project).any fun s =>
    s.declaration.name == name && s.declaration.exported) = false ↔ _
  rw [hany]
  simp only [NeverExported, nodeDeclarations, List.any_eq_false, List.mem_flatMap, List.mem_filter,
    bne_iff_ne, Bool.and_eq_true, beq_iff_eq, not_and, Bool.not_eq_true]
  constructor
  · intro hnone s hs d hd hkind hname
    exact hnone d ⟨s, hs, hd, hkind⟩ hname
  · rintro hnone d ⟨s, hs, hd, hkind⟩ hname
    exact hnone s hs d hd hkind hname

/-- A name that makes nodes is in the legend, and its node in the graph. -/
lemma exists_node_of_firstKind? {kind : DeclarationKind} (h : firstKind? project name = some kind) :
    ∃ node ∈ (build project).nodes, node.name = name := by
  obtain ⟨d, hd, -⟩ := Option.map_eq_some_iff.mp h
  have hname : d.name = name := by simpa using List.find?_some hd
  have hmem : name ∈ (build project).legend.names := by
    change name ∈ (Legend.ofNames (declaredNames project)).names
    obtain ⟨s, hs, hds⟩ := List.mem_flatMap.mp (List.mem_of_find?_eq_some hd)
    rw [Legend.mem_names_ofNames, declaredNames, List.mem_flatMap]
    exact ⟨s, hs, List.mem_map.mpr ⟨d, (List.mem_filter.mp hds).1, hname⟩⟩
  obtain ⟨code, hcode⟩ := (consistent_build project).exists_codeOf?_iff.mpr hmem
  rw [← map_declaration_nodeSites, List.find?_map, Option.map_eq_some_iff] at hd
  obtain ⟨first, hfirst, -⟩ := hd
  obtain ⟨bare, hbare⟩ : ∃ bare, declaredNode? (nodeSites project) name code = some bare :=
    ⟨_, congrArg (Option.map _) hfirst⟩
  exact ⟨completed project bare, mem_nodes_iff.mpr ⟨bare, ⟨name, code, hcode, hbare⟩, rfl⟩,
    withMembers_name.trans (declaredNode?_name hbare)⟩

/-! ## Calls and nodes -/

/-- Without dots in codes, only a plain call of its name goes to a node. -/
lemma callTarget?_eq_code_iff (hnode : node ∈ (build project).nodes)
    (hdot : '.' ∉ node.code.toList) (call : CallSite) :
    callTarget? (build project).legend (build project).nodes call = some node.code ↔
      call.qualifier = none ∧ call.callee = node.name := by
  have hlegend := consistent_build project
  have hcode := codeOf?_name_of_mem_nodes hnode
  rw [callTarget?]
  cases hqualifier : call.qualifier with
  | none =>
    simp only [true_and]
    rw [nodeCode?, Option.filter_eq_some_iff]
    constructor
    · rintro ⟨hcallee, -⟩
      exact hlegend.codeOf?_inj hcallee hcode
    · intro hcallee
      rw [hcallee]
      exact ⟨hcode, List.any_eq_true.mpr ⟨node, hnode, by simp⟩⟩
  | some qualifier =>
    refine iff_of_false ?_ (by simp)
    intro htarget
    obtain ⟨owner, -, haddress⟩ := Option.map_eq_some_iff.mp htarget
    apply hdot
    rw [← haddress]
    simp

lemma exists_edge_to_iff (project : Project) (target : String) :
    (∃ e ∈ (build project).edges, e.target = target) ↔
      ∃ site ∈ callSites project,
        callTarget? (build project).legend (build project).nodes site.2 = some target := by
  constructor
  · rintro ⟨e, he, htarget⟩
    obtain ⟨site, hsite, hjoins⟩ :=
      (exists_edge_iff project e.source target).mp ⟨e, he, rfl, htarget⟩
    rw [joins, Bool.and_eq_true, beq_iff_eq, beq_iff_eq] at hjoins
    exact ⟨site, hsite, hjoins.2⟩
  · rintro ⟨site, hsite, htarget⟩
    obtain ⟨e, he, -, hto⟩ := (exists_edge_iff project
      (callSource (build project).legend project site.1 site.2) target).mpr
        ⟨site, hsite, by rw [joins, htarget]; simp⟩
    exact ⟨e, he, hto⟩

lemma isUncalled_iff (hnode : node ∈ (build project).nodes) (hdot : '.' ∉ node.code.toList) :
    (CallGraph.ofEdges (build project).edges).isUncalled node.code = true ↔
      NeverCalled project node.name := by
  rw [(CallGraph.holds_ofEdges _).isUncalled_iff]
  have hedge := exists_edge_to_iff project node.code
  simp only [callTarget?_eq_code_iff hnode hdot] at hedge
  constructor
  · intro hnone s hs c hc hqualifier hcallee
    obtain ⟨e, he, htarget⟩ :=
      hedge.mpr ⟨(s, c), mem_callSites.mpr ⟨hs, hc⟩, hqualifier, hcallee⟩
    exact hnone e he htarget
  · intro hnever e he htarget
    obtain ⟨⟨s, c⟩, hsite, hqualifier, hcallee⟩ := hedge.mp ⟨e, he, htarget⟩
    obtain ⟨hs, hc⟩ := mem_callSites.mp hsite
    exact hnever s hs c hc hqualifier hcallee

/-! ## Orphans and dead functions -/

lemma mem_orphans_iff : code ∈ (build project).orphans ↔ ∃ node ∈ (build project).nodes,
    node.code = code ∧ node.kind = .functionNode ∧ node.exported = false ∧
      (CallGraph.ofEdges (build project).edges).isUncalled node.code = true := by
  change code ∈ orphansOf (build project).nodes (build project).edges ↔ _
  simp only [orphansOf, List.mem_map, List.mem_filter, Bool.and_eq_true, beq_iff_eq,
    Bool.not_eq_true', and_assoc]
  constructor
  · rintro ⟨node, hnode, hkind, hexported, huncalled, hcode⟩
    exact ⟨node, hnode, hcode, hkind, hexported, huncalled⟩
  · rintro ⟨node, hnode, hcode, hkind, hexported, huncalled⟩
    exact ⟨node, hnode, hkind, hexported, huncalled, hcode⟩

structure OrphanName (project : Project) (name : String) : Prop where
  isFunction : firstKind? project name = some .function
  neverExported : NeverExported project name
  neverCalled : NeverCalled project name

lemma mem_orphans_iff_orphanName
    (hdot : ∀ e ∈ (build project).legend.entries, '.' ∉ e.code.toList) :
    code ∈ (build project).orphans ↔
      ∃ node, (build project).node? code = some node ∧ OrphanName project node.name := by
  rw [mem_orphans_iff]
  refine exists_congr fun node => ?_
  rw [node?_eq_some_iff, and_assoc]
  refine and_congr_right fun hnode => and_congr_right fun _ => ?_
  obtain ⟨bare, hcode, hbare, hcompleted⟩ := exists_declaredNode? hnode
  have hplain : '.' ∉ node.code.toList :=
    hdot _ ((consistent_build project).codeOf?_eq_some_iff.mp hcode)
  have hkind : node.kind = bare.kind := by
    rw [← hcompleted]
    exact withMembers_kind
  have hexported : node.exported = bare.exported := by
    rw [← hcompleted]
    exact withMembers_exported
  rw [hkind, hexported, kind_eq_functionNode_iff hbare, exported_eq_false_iff hbare,
    isUncalled_iff hnode hplain]
  constructor
  · rintro ⟨hfunction, hnever, huncalled⟩
    exact ⟨hfunction, hnever, huncalled⟩
  · rintro ⟨hfunction, hnever, huncalled⟩
    exact ⟨hfunction, hnever, huncalled⟩

end

/-- If no code has a dot, the orphans are the codes of the functions that no declaration exports and
no plain call names. A function that a liveness report lists is one of them when its name is first
declared by a function and never exported. -/
theorem orphans_agree_with_liveness (project : Project)
    (hdot : ∀ e ∈ (build project).legend.entries, '.' ∉ e.code.toList) :
    (∀ code, code ∈ (build project).orphans ↔
      ∃ node, (build project).node? code = some node ∧ OrphanName project node.name) ∧
    ∀ files scope config limit, ∀ x ∈ (Liveness.classify files project scope config limit).items,
      x.kind = .function → firstKind? project x.name = some .function →
        NeverExported project x.name →
          ∃ code ∈ (build project).orphans, (build project).legend.codeOf? x.name = some code := by
  refine ⟨fun code => mem_orphans_iff_orphanName hdot, ?_⟩
  intro files scope config limit x hx hkind hfirst hexported
  obtain ⟨node, hnode, hname⟩ := exists_node_of_firstKind? hfirst
  have hcalled : NeverCalled project x.name := by
    intro s hs c hc _
    exact Liveness.not_called_of_mem_classify hx (by rw [hkind]; rfl) hs hc
  refine ⟨node.code, (mem_orphans_iff_orphanName hdot).mpr ⟨node, ?_, ?_⟩, ?_⟩
  · exact node?_eq_some_iff.mpr ⟨hnode, rfl⟩
  · rw [hname]
    exact ⟨hfirst, hexported, hcalled⟩
  · rw [← hname]
    exact codeOf?_name_of_mem_nodes hnode

/-- The report of the sample lists `unused`; it does not list `helper`, which a test calls. -/
theorem orphans_agree_with_liveness_sample :
    (∀ e ∈ (build Liveness.sampleProject).legend.entries, '.' ∉ e.code.toList) ∧
      ⟨.function, "unused", none, ⟨false, ["a.js"]⟩, 7⟩ ∈ (Liveness.classify ⟨.dir []⟩
        Liveness.sampleProject ⟨true, ["app"]⟩ ⟨["onLoad"], [], "js", 50⟩ 50).items ∧
      "un" ∈ (build Liveness.sampleProject).orphans ∧
      "he" ∉ (build Liveness.sampleProject).orphans := by
  have hdot : ∀ e ∈ (build Liveness.sampleProject).legend.entries, '.' ∉ e.code.toList := by
    decide +kernel
  have hitem : ⟨.function, "unused", none, ⟨false, ["a.js"]⟩, 7⟩ ∈ (Liveness.classify ⟨.dir []⟩
      Liveness.sampleProject ⟨true, ["app"]⟩ ⟨["onLoad"], [], "js", 50⟩ 50).items := by
    rw [Liveness.classify_items (by rw [Liveness.classify_total]; decide +kernel)]
    refine List.mem_of_mem_filter (p := (·.kind.isDeclaration)) ?_
    rw [Liveness.deadItems_filter_isDeclaration.mem_iff]
    decide +kernel
  obtain ⟨horphans, hdead⟩ := orphans_agree_with_liveness Liveness.sampleProject hdot
  refine ⟨hdot, hitem, ?_, ?_⟩
  · have hunused : (build Liveness.sampleProject).legend.codeOf? "unused" = some "un" := by
      decide +kernel
    obtain ⟨code, hmem, hcode⟩ :=
      hdead _ _ _ _ _ hitem rfl (by decide +kernel) (by decide +kernel)
    rwa [Option.some.inj (hcode.symm.trans hunused)] at hmem
  · intro hmem
    have hhelper : (build Liveness.sampleProject).legend.codeOf? "helper" = some "he" := by
      decide +kernel
    obtain ⟨node, hnode, horphan⟩ := (horphans "he").mp hmem
    obtain ⟨hnodes, hcode⟩ := node?_eq_some_iff.mp hnode
    have hname : node.name = "helper" := by
      have hnodeCode := codeOf?_name_of_mem_nodes hnodes
      rw [hcode] at hnodeCode
      exact (consistent_build _).codeOf?_inj hnodeCode hhelper
    exact horphan.neverCalled Liveness.sampleProject.sheets[1] (by decide +kernel)
      ⟨none, "helper", none, 2⟩ (by decide +kernel) rfl hname.symm

end ScriptSurvey.SymbolGraph
