import ScriptSurvey.CommandLine.Run
import ScriptSurvey.Proofs.HealthCounts
import ScriptSurvey.Proofs.KeptGraphs
import ScriptSurvey.Proofs.Orphans

/-!
# Graphs shown by the server and on the command line

Both show the graph of the same files. A server without a kept graph shows it when some file
declares a function or a class; otherwise it says that there are no source files, even when the walk
finds some, and the command line prints the graph without nodes.
-/
namespace ScriptSurvey

namespace SymbolGraph

variable {project : Project}

lemma nodes_eq_nil_iff : (build project).nodes = [] ↔ nodeDeclarations project = [] := by
  constructor
  · intro hnodes
    rw [List.eq_nil_iff_forall_not_mem]
    intro d hd
    obtain ⟨first, hfirst⟩ : ∃ first,
        (nodeDeclarations project).find? (·.name == d.name) = some first := by
      rw [← Option.isSome_iff_exists, List.find?_isSome]
      exact ⟨d, hd, beq_self_eq_true d.name⟩
    have hkind : firstKind? project d.name = some first.kind := by
      rw [firstKind?, hfirst, Option.map_some]
    obtain ⟨node, hnode, -⟩ := exists_node_of_firstKind? hkind
    rw [hnodes] at hnode
    cases hnode
  · intro hnone
    rw [List.eq_nil_iff_forall_not_mem]
    intro node hnode
    obtain ⟨bare, -, hbare, -⟩ := exists_declaredNode? hnode
    obtain ⟨site, hsite, -⟩ := Option.map_eq_some_iff.mp hbare
    have hmem : site.declaration ∈ (nodeSites project).map (·.declaration) :=
      List.mem_map_of_mem (List.mem_of_find?_eq_some hsite)
    rw [map_declaration_nodeSites, hnone] at hmem
    cases hmem

lemma orphans_eq_nil_of_nodes (h : (build project).nodes = []) : (build project).orphans = [] := by
  change orphansOf (build project).nodes (build project).edges = []
  rw [h]
  rfl

def DeclaresNode (files : FileSystem) (path : Path) : Prop :=
  ∃ d ∈ (Survey.sheetOf files path).declarations, d.kind ≠ .method

instance (files : FileSystem) (path : Path) : Decidable (DeclaresNode files path) :=
  inferInstanceAs (Decidable (∃ d ∈ (Survey.sheetOf files path).declarations, d.kind ≠ .method))

lemma nodeDeclarations_eq_nil_iff {files : FileSystem} {root : Path} {paths : List Path} :
    nodeDeclarations ⟨root, paths.map (Survey.sheetOf files)⟩ = [] ↔
      ∀ path ∈ paths, ¬ DeclaresNode files path := by
  simp [nodeDeclarations, DeclaresNode, List.filter_eq_nil_iff]

end SymbolGraph

namespace CommandLine

/-- The command line prints the graph of the project that a path lies in. -/
lemma ask_graph {files : FileSystem} {workDir path : String} {root scope : Path}
    {g : SymbolGraph} (hscope : files.locate? workDir path = some scope)
    (hroot : Walk.findProjectRoot files scope = root)
    (hgraph : Survey.graph files (Config.load files root) root = .ok g) (maxEdges : Option Nat) :
    ask files workDir (.graph maxEdges) path .compact =
      ⟨0, Report.graph g maxEdges ++ "\n", ""⟩ := by
  subst hroot
  simp only [ask, project, hscope, bind, Except.bind, answer, hgraph]
  rfl

end CommandLine

namespace Tools.Server

variable {server : Server} {files : FileSystem} {project : Option String} {root : Path}

/-- Without a kept graph, the server builds one and refuses to show it when it is empty. -/
lemma buildGraph_of_graph {paths : List Path}
    (hgraph : Survey.graph files (Config.load files root) root =
      .ok (SymbolGraph.build ⟨root, paths.map (Survey.sheetOf files)⟩)) :
    ((∃ path ∈ paths, SymbolGraph.DeclaresNode files path) → buildGraph files root =
      .ok (SymbolGraph.build ⟨root, paths.map (Survey.sheetOf files)⟩)) ∧
    ((∀ path ∈ paths, ¬ SymbolGraph.DeclaresNode files path) →
      buildGraph files root = .error (noSources root)) := by
  have hempty : (SymbolGraph.build ⟨root, paths.map (Survey.sheetOf files)⟩).nodes = [] ↔
      ∀ path ∈ paths, ¬ SymbolGraph.DeclaresNode files path :=
    SymbolGraph.nodes_eq_nil_iff.trans SymbolGraph.nodeDeclarations_eq_nil_iff
  rw [buildGraph, hgraph]
  constructor
  · rintro ⟨path, hpath, hdeclares⟩
    have hnodes := mt hempty.mp fun hnone => hnone path hpath hdeclares
    rw [← List.isEmpty_iff, Bool.not_eq_true] at hnodes
    simp only [Except.mapError, bind, Except.bind, hnodes, Bool.false_and]
    rfl
  · intro hnone
    have hnodes := hempty.mpr hnone
    have horphans := SymbolGraph.orphans_eq_nil_of_nodes hnodes
    simp only [Except.mapError, bind, Except.bind, hnodes, horphans]
    rfl

/-- For every project and every server without a kept graph, the walk and the graph of its files
exist, and the command line prints the graph. The server shows the same text with its hint just when
some file of the walk declares a function or a class, and otherwise reports that there are no source
files. -/
theorem graph_reply_printed (hcache : server.cache = GraphCache.empty)
    (hroot : server.projectRoot files project = .ok root) (maxEdges : Option Nat) :
    ∃ paths g,
      Walk.walk files (Config.load files root) .scripts root.toString = .ok paths ∧
      Survey.graph files (Config.load files root) root = .ok g ∧
      CommandLine.ask files server.workDir (.graph maxEdges) (project.getD server.root) .compact =
        ⟨0, Report.graph g maxEdges ++ "\n", ""⟩ ∧
      ((∃ path ∈ paths, SymbolGraph.DeclaresNode files path) →
        (server.answer files ⟨project, .getGraph maxEdges⟩).reply =
          ⟨false, Report.graph g maxEdges ++ Hint.graph g.orphans.length⟩) ∧
      ((∀ path ∈ paths, ¬ SymbolGraph.DeclaresNode files path) →
        (server.answer files ⟨project, .getGraph maxEdges⟩).reply = ⟨true, noSources root⟩) := by
  obtain ⟨scope, hscope, hfound⟩ : ∃ scope,
      files.locate? server.workDir (project.getD server.root) = some scope ∧
        Walk.findProjectRoot files scope = root := by
    rw [projectRoot] at hroot
    split at hroot
    · exact ⟨_, ‹_›, Except.ok.inj hroot⟩
    · cases hroot
  have hcanonical : files.canonical?
      (Path.joinText server.workDir (project.getD server.root)) = some scope := by
    rw [FileSystem.locate?] at hscope
    split_ifs at hscope
    exact hscope
  obtain ⟨paths, hpaths⟩ := Survey.exists_walk (Config.load files root) hcanonical .scripts
  rw [hfound] at hpaths
  have hgraph : Survey.graph files (Config.load files root) root =
      .ok (SymbolGraph.build ⟨root, paths.map (Survey.sheetOf files)⟩) := by
    rw [Survey.graph, Survey.collect, hpaths]
    rfl
  have hreply : (server.answer files ⟨project, .getGraph maxEdges⟩).reply =
      replyOf (buildGraph files root >>= fun g => .ok (graphText maxEdges g)) := by
    rw [reply_answer (rfl : (Tool.getGraph maxEdges).aboutGraph? = some _), hroot]
    simp only [bind, Except.bind, graphOf_of_empty hcache]
  obtain ⟨hshown, hrefused⟩ := buildGraph_of_graph hgraph
  refine ⟨paths, _, hpaths, hgraph, CommandLine.ask_graph hscope hfound hgraph maxEdges, ?_, ?_⟩
  · intro hdeclares
    rw [hreply, hshown hdeclares]
    rfl
  · intro hnone
    rw [hreply, hrefused hnone]
    rfl

theorem graph_reply_printed_alpha :
    let server := Server.create (functionFiles "alpha") "/" "/app"
    server.cache = GraphCache.empty ∧
      server.projectRoot (functionFiles "alpha") none = .ok ⟨true, ["app"]⟩ ∧
      ∃ text orphans,
        CommandLine.ask (functionFiles "alpha") "/" (.graph none) "/app" .compact =
          ⟨0, text ++ "\n", ""⟩ ∧
        (server.answer (functionFiles "alpha") ⟨none, .getGraph none⟩).reply =
          ⟨false, text ++ Hint.graph orphans⟩ := by
  intro server
  have hroot : server.projectRoot (functionFiles "alpha") none = .ok ⟨true, ["app"]⟩ := by
    decide +kernel
  have hcache : server.cache = GraphCache.empty := rfl
  obtain ⟨paths, g, hpaths, -, hprinted, hshown, -⟩ := graph_reply_printed hcache hroot none
  have hlisted : Walk.walk (functionFiles "alpha")
      (Config.load (functionFiles "alpha") ⟨true, ["app"]⟩) .scripts
      (Path.toString ⟨true, ["app"]⟩) = .ok [⟨true, ["app", "index.js"]⟩] := by
    decide +kernel
  obtain rfl := Except.ok.inj (hlisted.symm.trans hpaths)
  exact ⟨hcache, hroot, _, _, hprinted, hshown ⟨_, List.mem_singleton_self _, by decide +kernel⟩⟩

/-- A project with one script that binds a name and declares nothing. -/
def bindingFiles : FileSystem :=
  ⟨.dir [("app", .dir [("package.json", .file (.ofText "\x7b\x7d")),
    ("index.js", .file (.ofText "const bindingOnly = 1;"))])]⟩

/-- The walk finds a script, and the server says that there is none. -/
theorem graph_refused_for_bindings :
    let server := Server.create bindingFiles "/" "/app"
    server.cache = GraphCache.empty ∧
      Walk.walk bindingFiles (Config.load bindingFiles ⟨true, ["app"]⟩) .scripts "/app" =
        .ok [⟨true, ["app", "index.js"]⟩] ∧
      CommandLine.ask bindingFiles "/" (.graph none) "/app" .compact =
        ⟨0, "legend \nedges \n0 nodes, 0 edges\n", ""⟩ ∧
      (server.answer bindingFiles ⟨none, .getGraph none⟩).reply =
        ⟨true, noSources ⟨true, ["app"]⟩⟩ := by
  refine ⟨rfl, ?_, ?_, ?_⟩ <;> decide +kernel

end Tools.Server

end ScriptSurvey
