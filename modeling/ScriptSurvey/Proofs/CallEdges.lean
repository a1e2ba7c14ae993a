import ScriptSurvey.Graph.Build
import ScriptSurvey.Proofs.FirstOccurrences

/-!
# The edges of a symbol graph

The calls of a project stand in the order of its sheets. The edges of the graph are the image of
these sites: one edge for each two addresses that some call joins, at the line of the first such
call, and in the order of these first calls. No edge leads out of the graph.
-/
namespace ScriptSurvey.SymbolGraph

def callSites (project : Project) : List (FactSheet × CallSite) :=
  project.sheets.flatMap fun sheet => sheet.calls.map fun call => (sheet, call)

lemma mem_callSites {project : Project} {site : FactSheet × CallSite} :
    site ∈ callSites project ↔ site.1 ∈ project.sheets ∧ site.2 ∈ site.1.calls := by
  obtain ⟨sheet, call⟩ := site
  simp only [callSites, List.mem_flatMap, List.mem_map, Prod.mk.injEq]
  constructor
  · rintro ⟨s, hs, c, hc, rfl, rfl⟩
    exact ⟨hs, hc⟩
  · rintro ⟨hs, hc⟩
    exact ⟨sheet, hs, call, hc, rfl, rfl⟩

def siteEdge? (legend : Legend) (nodes : List GraphNode) (project : Project)
    (site : FactSheet × CallSite) : Option CallEdge :=
  (callTarget? legend nodes site.2).map fun target =>
    ⟨callSource legend project site.1 site.2, target, site.2.line⟩

def sameEnds (a b : CallEdge) : Bool := a.source == b.source && a.target == b.target

def joins (graph : SymbolGraph) (project : Project) (source target : String)
    (site : FactSheet × CallSite) : Bool :=
  callSource graph.legend project site.1 site.2 == source &&
    callTarget? graph.legend graph.nodes site.2 == some target

lemma sameEnds_iff (a b : CallEdge) :
    sameEnds a b = true ↔ (a.source, a.target) = (b.source, b.target) := by
  simp only [sameEnds, Bool.and_eq_true, beq_iff_eq, Prod.mk.injEq]

lemma callEdges_eq (legend : Legend) (nodes : List GraphNode) (project : Project) :
    callEdges legend nodes project =
      (callSites project).filterMap (siteEdge? legend nodes project) := by
  rw [callEdges, callSites, List.filterMap_flatMap]
  refine congrArg (List.flatMap · project.sheets) (funext fun sheet => ?_)
  rw [List.filterMap_map]
  rfl

lemma build_edges (project : Project) :
    (build project).edges = keepFirst sameEnds ((callSites project).filterMap
      (siteEdge? (build project).legend (build project).nodes project)) := by
  rw [← callEdges_eq]
  rfl

lemma siteEdge?_any_sameEnds (project : Project) (e : CallEdge) :
    (fun site => (siteEdge? (build project).legend (build project).nodes project site).any
      (sameEnds · e)) = joins (build project) project e.source e.target := by
  funext site
  rw [siteEdge?, joins]
  cases callTarget? (build project).legend (build project).nodes site.2 with
  | none => simp
  | some target => simp [sameEnds]

/-! ## Where calls lead -/

lemma nodeCode?_mem {legend : Legend} {nodes : List GraphNode} {name code : String}
    (h : nodeCode? legend nodes name = some code) : ∃ n ∈ nodes, n.code = code := by
  obtain ⟨-, hany⟩ := Option.filter_eq_some_iff.mp h
  simpa using hany

/-- A target is a node, or a member of the node that the qualifier names. -/
lemma callTarget?_mem {legend : Legend} {nodes : List GraphNode} {call : CallSite}
    {target : String} (h : callTarget? legend nodes call = some target) :
    ∃ n ∈ nodes, target = n.code ∨ ∃ member, target = n.code ++ "." ++ member := by
  rw [callTarget?] at h
  cases hq : call.qualifier with
  | none =>
    rw [hq] at h
    obtain ⟨n, hn, hcode⟩ := nodeCode?_mem h
    exact ⟨n, hn, Or.inl hcode.symm⟩
  | some qualifier =>
    rw [hq] at h
    obtain ⟨owner, howner, htarget⟩ := Option.map_eq_some_iff.mp h
    obtain ⟨n, hn, hcode⟩ : ∃ n ∈ nodes, n.code = owner := by
      rcases Option.or_eq_some_iff.mp howner with hplain | ⟨-, hcapital⟩
      · exact nodeCode?_mem hplain
      · exact nodeCode?_mem hcapital
    exact ⟨n, hn, Or.inr ⟨_, by rw [hcode]; exact htarget.symm⟩⟩

/-! ## The image of the call sites -/

variable (project : Project)

lemma exists_edge_iff (source target : String) :
    (∃ e ∈ (build project).edges, e.source = source ∧ e.target = target) ↔
      ∃ site ∈ callSites project, joins (build project) project source target site = true := by
  have hkeys := mem_map_keepFirst sameEnds_iff ((callSites project).filterMap
    (siteEdge? (build project).legend (build project).nodes project)) (source, target)
  rw [← build_edges] at hkeys
  simp only [List.mem_map, Prod.mk.injEq, List.mem_filterMap] at hkeys
  rw [hkeys]
  constructor
  · rintro ⟨e, ⟨site, hsite, hedge⟩, rfl, rfl⟩
    refine ⟨site, hsite, ?_⟩
    rw [← siteEdge?_any_sameEnds]
    simp [hedge, sameEnds]
  · rintro ⟨site, hsite, hjoins⟩
    rw [joins, Bool.and_eq_true, beq_iff_eq, beq_iff_eq] at hjoins
    exact ⟨⟨source, target, site.2.line⟩, ⟨site, hsite, by simp [siteEdge?, hjoins]⟩, rfl, rfl⟩

lemma find?_joins_of_mem_edges {e : CallEdge} (he : e ∈ (build project).edges) :
    ∃ site, (callSites project).find? (joins (build project) project e.source e.target) =
      some site ∧ site.2.line = e.line := by
  rw [build_edges, mem_keepFirst_iff sameEnds_iff, List.find?_filterMap,
    siteEdge?_any_sameEnds, Option.bind_eq_some_iff] at he
  obtain ⟨site, hfind, hedge⟩ := he
  obtain ⟨target, -, rfl⟩ := Option.map_eq_some_iff.mp hedge
  exact ⟨site, hfind, rfl⟩

lemma pairwise_edges :
    (build project).edges.Pairwise fun a b =>
      (callSites project).findIdx (joins (build project) project a.source a.target) <
        (callSites project).findIdx (joins (build project) project b.source b.target) := by
  have hkept := pairwise_findIdx_keepFirst sameEnds_iff ((callSites project).filterMap
    (siteEdge? (build project).legend (build project).nodes project))
  rw [← build_edges] at hkept
  refine hkept.imp ?_
  intro a b hab
  rw [← siteEdge?_any_sameEnds, ← siteEdge?_any_sameEnds]
  exact findIdx_lt_of_filterMap _ hab

/-- The edges are exactly the image of the calls: no two have the same ends, two addresses have an
edge when some call of some sheet joins them, edges stand in the order of the first calls that make
them and at their lines, and every target is a node or a member of one. -/
theorem build_edges_image :
    ((build project).edges.map fun e => (e.source, e.target)).Nodup ∧
    (∀ source target, (∃ e ∈ (build project).edges, e.source = source ∧ e.target = target) ↔
      ∃ sheet ∈ project.sheets, ∃ call ∈ sheet.calls,
        callTarget? (build project).legend (build project).nodes call = some target ∧
        callSource (build project).legend project sheet call = source) ∧
    (∀ e ∈ (build project).edges,
      ∃ site, (callSites project).find? (joins (build project) project e.source e.target) =
        some site ∧ site.2.line = e.line) ∧
    ((build project).edges.Pairwise fun a b =>
      (callSites project).findIdx (joins (build project) project a.source a.target) <
        (callSites project).findIdx (joins (build project) project b.source b.target)) ∧
    (∀ e ∈ (build project).edges, ∃ n ∈ (build project).nodes,
      e.target = n.code ∨ ∃ member, e.target = n.code ++ "." ++ member) := by
  refine ⟨?_, ?_, fun e he => find?_joins_of_mem_edges project he, pairwise_edges project, ?_⟩
  · rw [build_edges]
    exact nodup_map_keepFirst sameEnds_iff _
  · intro source target
    rw [exists_edge_iff]
    constructor
    · rintro ⟨site, hsite, hjoins⟩
      obtain ⟨hsheet, hcall⟩ := mem_callSites.mp hsite
      rw [joins, Bool.and_eq_true, beq_iff_eq, beq_iff_eq] at hjoins
      exact ⟨site.1, hsheet, site.2, hcall, hjoins.2, hjoins.1⟩
    · rintro ⟨sheet, hsheet, call, hcall, htarget, hsource⟩
      refine ⟨(sheet, call), mem_callSites.mpr ⟨hsheet, hcall⟩, ?_⟩
      rw [joins, Bool.and_eq_true, beq_iff_eq, beq_iff_eq]
      exact ⟨hsource, htarget⟩
  · intro e he
    obtain ⟨site, hfind, -⟩ := find?_joins_of_mem_edges project he
    have hjoins := List.find?_some hfind
    rw [joins, Bool.and_eq_true, beq_iff_eq, beq_iff_eq] at hjoins
    exact callTarget?_mem hjoins.2

/-- One function calls a method through a variable that is named like its class, and then something
undeclared; the file calls the function. -/
def orderProject : Project where
  root := ⟨true, ["app"]⟩
  sheets := [
    { FactSheet.failed ⟨true, ["app", "orders.js"]⟩ .javaScript 9 with
      parseFailed := false
      declarations := [⟨"OrderStore", .classDef, none, 1, true, false⟩,
        ⟨"save", .method, some "OrderStore", 2, false, false⟩,
        ⟨"close", .function, none, 6, false, false⟩]
      calls := [⟨some "close", "save", some "orderStore", 7⟩,
        ⟨some "close", "log", some "console", 8⟩, ⟨none, "close", none, 9⟩] }]

example : (build orderProject).edges = [⟨"cl", "OS.sa", 7⟩, ⟨"orders.js", "cl", 9⟩] := by cbv

end ScriptSurvey.SymbolGraph
