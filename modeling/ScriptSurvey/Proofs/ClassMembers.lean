import Mathlib
import ScriptSurvey.Proofs.Orphans

/-!
# Members of classes

Declarations of one name share a node, and the first of them makes it. If that is a class, then the
node lists the methods of all classes of the name, in whatever sheets they stand. If it is a function,
then the node is a function, and no class of the name adds its methods to it.
-/
namespace ScriptSurvey.SymbolGraph

def ClassesDeclared (project : Project) : Prop :=
  ∀ s ∈ project.sheets, ∀ c ∈ s.classes, ∃ d ∈ s.declarations, d.kind = .classDef ∧ d.name = c.name

instance (project : Project) : Decidable (ClassesDeclared project) :=
  inferInstanceAs (Decidable (∀ s ∈ project.sheets, ∀ c ∈ s.classes, ∃ d ∈ s.declarations,
    d.kind = .classDef ∧ d.name = c.name))

section

variable {project : Project} {node : GraphNode} {name code : String}

lemma firstKind?_ne_method : firstKind? project name ≠ some .method := by
  intro h
  obtain ⟨d, hd, hkind⟩ := Option.map_eq_some_iff.mp h
  obtain ⟨s, -, hds⟩ := List.mem_flatMap.mp (List.mem_of_find?_eq_some hd)
  have hkept := (List.mem_filter.mp hds).2
  rw [hkind] at hkept
  exact absurd hkept (by decide)

/-- The name of a class is first declared by a class or by a function. -/
lemma firstKind?_of_class (hdeclared : ClassesDeclared project) {s : FactSheet}
    (hs : s ∈ project.sheets) {c : ClassInfo} (hc : c ∈ s.classes) :
    firstKind? project c.name = some .classDef ∨ firstKind? project c.name = some .function := by
  obtain ⟨d, hd, hkind, hname⟩ := hdeclared s hs c hc
  have hmem : d ∈ nodeDeclarations project :=
    List.mem_flatMap.mpr ⟨s, hs, List.mem_filter.mpr ⟨hd, by rw [hkind]; rfl⟩⟩
  have hsome : (firstKind? project c.name).isSome = true := by
    rw [firstKind?, Option.isSome_map, List.find?_isSome]
    exact ⟨d, hmem, beq_iff_eq.mpr hname⟩
  obtain ⟨kind, hfirst⟩ := Option.isSome_iff_exists.mp hsome
  cases kind with
  | classDef => exact Or.inl hfirst
  | function => exact Or.inr hfirst
  | method => exact absurd hfirst firstKind?_ne_method

lemma firstKind?_of_mem_nodes (h : node ∈ (build project).nodes) :
    (firstKind? project node.name).bind nodeKind? = some node.kind := by
  obtain ⟨bare, -, hbare, rfl⟩ := exists_declaredNode? h
  rw [firstKind?_of_declaredNode? hbare]
  exact congrArg some withMembers_kind.symm

lemma mem_methods_iff (h : node ∈ (build project).nodes) :
    code ∈ node.methods ↔ node.kind = .classNode ∧ ∃ c ∈ classInfos project, c.name = node.name ∧
      ∃ m ∈ c.methods, (build project).legend.codeOf? m.1 = some code := by
  obtain ⟨bare, hcode, hbare, rfl⟩ := exists_declaredNode? h
  have hname : ∀ c : ClassInfo, (build project).legend.codeOf? c.name = some bare.code ↔
      c.name = (completed project bare).name := by
    intro c
    rw [declaredNode?_code hbare]
    constructor
    · intro hc
      exact (consistent_build project).codeOf?_inj hc hcode
    · intro hc
      rw [hc, hcode]
  simp only [← hname, show (completed project bare).kind = bare.kind from withMembers_kind]
  exact mem_methods_withMembers_iff (declaredNode?_methods hbare)

lemma exists_codeOf?_of_declared (h : name ∈ declaredNames project) :
    ∃ code, (build project).legend.codeOf? name = some code :=
  (consistent_build project).exists_codeOf?_iff.mpr ((Legend.mem_names_ofNames _ name).mpr h)

end

/-- Let each class of a project be declared in its sheet. Then each class has a node under the code of
its name. If a class is the first declaration of this name, then the node lists the codes of the
declared methods of this class and of all others of the name, and nothing else; if a function is,
then the node is that of a function and lists no methods. -/
theorem class_methods_listed (project : Project) (hdeclared : ClassesDeclared project) :
    ∀ s ∈ project.sheets, ∀ c ∈ s.classes, ∃ node ∈ (build project).nodes, node.name = c.name ∧
      (build project).legend.codeOf? c.name = some node.code ∧
      (firstKind? project c.name = some .classDef ∧ node.kind = .classNode ∧
          (∀ m ∈ c.methods, m.1 ∈ declaredNames project →
            ∃ code ∈ node.methods, (build project).legend.codeOf? m.1 = some code) ∧
          (∀ code, code ∈ node.methods ↔ ∃ other ∈ classInfos project, other.name = c.name ∧
            ∃ m ∈ other.methods, (build project).legend.codeOf? m.1 = some code) ∨
        firstKind? project c.name = some .function ∧ node.kind = .functionNode ∧
          node.methods = []) := by
  intro s hs c hc
  have hfirst := firstKind?_of_class hdeclared hs hc
  obtain ⟨kind, hkind⟩ : ∃ kind, firstKind? project c.name = some kind := by
    rcases hfirst with hclass | hfunction
    · exact ⟨_, hclass⟩
    · exact ⟨_, hfunction⟩
  obtain ⟨node, hnode, hname⟩ := exists_node_of_firstKind? hkind
  have hnodeKind := firstKind?_of_mem_nodes hnode
  refine ⟨node, hnode, hname, hname ▸ codeOf?_name_of_mem_nodes hnode, ?_⟩
  rw [hname] at hnodeKind
  rcases hfirst with hclass | hfunction
  · left
    rw [hclass] at hnodeKind
    have hclassNode : node.kind = .classNode := (Option.some.inj hnodeKind).symm
    have hmethods : ∀ code, code ∈ node.methods ↔ ∃ other ∈ classInfos project,
        other.name = c.name ∧ ∃ m ∈ other.methods,
          (build project).legend.codeOf? m.1 = some code := by
      intro code
      rw [mem_methods_iff hnode, hname, and_iff_right hclassNode]
    refine ⟨hclass, hclassNode, fun m hm hmDeclared => ?_, hmethods⟩
    obtain ⟨code, hcode⟩ := exists_codeOf?_of_declared hmDeclared
    have hinfo : c ∈ classInfos project := List.mem_flatMap.mpr ⟨s, hs, hc⟩
    exact ⟨code, (hmethods code).mpr ⟨c, hinfo, rfl, m, hm, hcode⟩, hcode⟩
  · right
    rw [hfunction] at hnodeKind
    have hfunctionNode : node.kind = .functionNode := (Option.some.inj hnodeKind).symm
    refine ⟨hfunction, hfunctionNode, List.eq_nil_iff_forall_not_mem.mpr fun code hcode => ?_⟩
    have hclassNode := ((mem_methods_iff hnode).mp hcode).1
    rw [hfunctionNode] at hclassNode
    cases hclassNode

def storeClassSheet : FactSheet :=
  { FactSheet.failed ⟨true, ["app", "b.js"]⟩ .javaScript 4 with
    parseFailed := false
    declarations := [⟨"Store", .classDef, none, 1, false, false⟩,
      ⟨"load", .method, some "Store", 2, false, false⟩]
    classes := [⟨"Store", 1, none, [("load", 2)], []⟩] }

def storeFunctionSheet : FactSheet :=
  { FactSheet.failed ⟨true, ["app", "a.js"]⟩ .javaScript 1 with
    parseFailed := false
    declarations := [⟨"Store", .function, none, 1, false, false⟩] }

def classFirstProject : Project := ⟨⟨true, ["app"]⟩, [storeClassSheet, storeFunctionSheet]⟩

def functionFirstProject : Project := ⟨⟨true, ["app"]⟩, [storeFunctionSheet, storeClassSheet]⟩

theorem class_methods_listed_store :
    ClassesDeclared classFirstProject ∧ ClassesDeclared functionFirstProject ∧
      (∃ node ∈ (build classFirstProject).nodes, node.name = "Store" ∧ "lo" ∈ node.methods) ∧
      ∃ node ∈ (build functionFirstProject).nodes, node.name = "Store" ∧ node.methods = [] := by
  have hclassFirst : ClassesDeclared classFirstProject := by decide
  have hfunctionFirst : ClassesDeclared functionFirstProject := by decide
  refine ⟨hclassFirst, hfunctionFirst, ?_, ?_⟩
  · obtain ⟨node, hnode, hname, -, hkind⟩ := class_methods_listed classFirstProject hclassFirst
      storeClassSheet (by decide) ⟨"Store", 1, none, [("load", 2)], []⟩ (by decide)
    rcases hkind with ⟨-, -, hlisted, -⟩ | ⟨hfunction, -⟩
    · obtain ⟨code, hmem, hcode⟩ := hlisted ("load", 2) (by decide) (by decide)
      have hload : (build classFirstProject).legend.codeOf? "load" = some "lo" := by
        cbv
      obtain rfl : code = "lo" := Option.some.inj (hcode.symm.trans hload)
      exact ⟨node, hnode, hname, hmem⟩
    · exact absurd hfunction (by decide)
  · obtain ⟨node, hnode, hname, -, hkind⟩ := class_methods_listed functionFirstProject
      hfunctionFirst storeClassSheet (by decide) ⟨"Store", 1, none, [("load", 2)], []⟩ (by decide)
    rcases hkind with ⟨hclass, -⟩ | ⟨-, -, hmethods⟩
    · exact absurd hclass (by decide)
    · exact ⟨node, hnode, hname, hmethods⟩

/-- A class may come after a function of its name, and its methods are lost. -/
theorem methods_behind_function :
    ¬ ∀ project : Project, ClassesDeclared project → ∀ s ∈ project.sheets, ∀ c ∈ s.classes,
      ∀ m ∈ c.methods, ∃ node ∈ (build project).nodes,
        (build project).legend.codeOf? c.name = some node.code ∧
        ∃ code ∈ node.methods, (build project).legend.codeOf? m.1 = some code := by
  intro hall
  obtain ⟨node, hnode, hcode, code, hmem, -⟩ := hall functionFirstProject (by decide)
    storeClassSheet (by decide) ⟨"Store", 1, none, [("load", 2)], []⟩ (by decide) ("load", 2)
    (by decide)
  have hname : node.name = "Store" :=
    (consistent_build _).codeOf?_inj (codeOf?_name_of_mem_nodes hnode) hcode
  have hclass := ((mem_methods_iff hnode).mp hmem).1
  have hkind := firstKind?_of_mem_nodes hnode
  rw [hname, hclass] at hkind
  exact absurd hkind (by decide)

end ScriptSurvey.SymbolGraph
