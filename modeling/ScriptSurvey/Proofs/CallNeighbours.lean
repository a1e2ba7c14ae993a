import ScriptSurvey.Graph.Basic
import ScriptSurvey.Proofs.FirstOccurrences
import ScriptSurvey.Proofs.Positions
import ScriptSurvey.Proofs.TextOrder

/-!
# Neighbours in a call graph

The arcs of a call graph, read with the addresses of their numbers, are the edges it was made from.
So the neighbours of an address are the other ends of its edges, none missing and none invented.
-/
namespace ScriptSurvey

namespace CallGraph

def edge? (graph : CallGraph) (arc : CallArc) : Option CallEdge :=
  (graph.addresses[arc.source]?).bind fun source =>
    (graph.addresses[arc.target]?).map fun target => ⟨source, target, arc.line⟩

/-- The numbers belong to the addresses, and the arcs are the edges in their order. -/
structure Holds (graph : CallGraph) (edges : List CallEdge) : Prop where
  numbers : Positions graph.addresses graph.numbers
  arcs : graph.arcs.map graph.edge? = edges.map some

variable {graph : CallGraph} {edges : List CallEdge}

lemma edge?_eq_some_iff {arc : CallArc} {e : CallEdge} :
    graph.edge? arc = some e ↔ graph.addresses[arc.source]? = some e.source ∧
      graph.addresses[arc.target]? = some e.target ∧ arc.line = e.line := by
  rw [edge?, Option.bind_eq_some_iff]
  constructor
  · rintro ⟨source, hsource, hmap⟩
    obtain ⟨target, htarget, rfl⟩ := Option.map_eq_some_iff.mp hmap
    exact ⟨hsource, htarget, rfl⟩
  · rintro ⟨hsource, htarget, hline⟩
    exact ⟨_, hsource, Option.map_eq_some_iff.mpr ⟨_, htarget, by rw [hline]⟩⟩

/-! ## Numbering -/

/-- Numbering an address keeps all earlier numbers and the arcs. -/
lemma intern_spec (h : Positions graph.addresses graph.numbers) (address : String) :
    let result := graph.intern address
    Positions result.2.addresses result.2.numbers ∧ result.2.arcs = graph.arcs ∧
      graph.addresses <+: result.2.addresses ∧ result.2.addresses[result.1]? = some address := by
  rw [intern]
  split
  case h_1 i hi =>
    exact ⟨h, rfl, List.prefix_refl _, (h address i).mp hi⟩
  case h_2 hnone =>
    exact ⟨h.concat hnone, rfl, List.prefix_append _ _, List.getElem?_concat_length⟩

lemma getElem?_kept {α : Type} {l later : List α} (h : l <+: later) {i : Nat} {a : α}
    (hi : l[i]? = some a) : later[i]? = some a := by
  obtain ⟨hlt, rfl⟩ := List.getElem?_eq_some_iff.mp hi
  exact List.prefix_iff_getElem?.mp h i hlt

lemma edge?_kept {later : CallGraph} (hkeep : graph.addresses <+: later.addresses)
    {arc : CallArc} {e : CallEdge} (he : graph.edge? arc = some e) : later.edge? arc = some e := by
  rw [edge?_eq_some_iff] at he ⊢
  exact ⟨getElem?_kept hkeep he.1, getElem?_kept hkeep he.2.1, he.2.2⟩

lemma addresses_addEdge (e : CallEdge) : (graph.addEdge e).addresses =
    ((graph.intern e.source).2.intern e.target).2.addresses := rfl

lemma arcs_addEdge (e : CallEdge) : (graph.addEdge e).arcs =
    ((graph.intern e.source).2.intern e.target).2.arcs ++
      [⟨(graph.intern e.source).1, ((graph.intern e.source).2.intern e.target).1, e.line⟩] := rfl

lemma Holds.exists_edge (h : graph.Holds edges) {arc : CallArc} (harc : arc ∈ graph.arcs) :
    ∃ e ∈ edges, graph.edge? arc = some e := by
  have hmem : graph.edge? arc ∈ edges.map some := by
    rw [← h.arcs]
    exact List.mem_map_of_mem harc
  obtain ⟨e, he, heq⟩ := List.mem_map.mp hmem
  exact ⟨e, he, heq.symm⟩

lemma Holds.exists_arc (h : graph.Holds edges) {e : CallEdge} (he : e ∈ edges) :
    ∃ arc ∈ graph.arcs, graph.edge? arc = some e := by
  have hmem : some e ∈ graph.arcs.map graph.edge? := by
    rw [h.arcs]
    exact List.mem_map_of_mem he
  exact List.mem_map.mp hmem

/-- One more edge adds one arc, which reads as that edge; all others read as before. -/
lemma Holds.addEdge (h : graph.Holds edges) (e : CallEdge) :
    (graph.addEdge e).Holds (edges ++ [e]) := by
  obtain ⟨hnumbers₁, harcs₁, hkeep₁, hsource⟩ := intern_spec h.numbers e.source
  obtain ⟨hnumbers₂, harcs₂, hkeep₂, htarget⟩ := intern_spec hnumbers₁ e.target
  have hkept : ∀ arc ∈ graph.arcs, (graph.addEdge e).edge? arc = graph.edge? arc := by
    intro arc harc
    obtain ⟨old, -, hold⟩ := h.exists_edge harc
    rw [hold]
    exact edge?_kept (hkeep₁.trans hkeep₂) hold
  have hnew : (graph.addEdge e).edge? ⟨(graph.intern e.source).1,
      ((graph.intern e.source).2.intern e.target).1, e.line⟩ = some e := by
    rw [edge?_eq_some_iff, addresses_addEdge]
    exact ⟨getElem?_kept hkeep₂ hsource, htarget, rfl⟩
  refine ⟨hnumbers₂, ?_⟩
  rw [arcs_addEdge, harcs₂, harcs₁, List.map_append, List.map_append, List.map_congr_left hkept,
    h.arcs, List.map_singleton, List.map_singleton, hnew]

lemma holds_ofEdges (edges : List CallEdge) : (ofEdges edges).Holds edges := by
  induction edges using List.reverseRecOn with
  | nil => exact ⟨Positions.empty, rfl⟩
  | append_singleton edges e ih =>
    rw [ofEdges, List.foldl_append]
    exact ih.addEdge e

/-! ## Steps -/

lemma near_eq_some {arc : CallArc} {e : CallEdge} (direction : Direction)
    (he : graph.edge? arc = some e) :
    graph.addresses[direction.near arc.source arc.target]? =
      some (direction.near e.source e.target) := by
  rw [edge?_eq_some_iff] at he
  cases direction with
  | incoming => exact he.2.1
  | outgoing => exact he.1

lemma far_eq_some {arc : CallArc} {e : CallEdge} (direction : Direction)
    (he : graph.edge? arc = some e) :
    graph.addresses[direction.far arc.source arc.target]? =
      some (direction.far e.source e.target) := by
  rw [edge?_eq_some_iff] at he
  cases direction with
  | incoming => exact he.1
  | outgoing => exact he.2.1

variable {address other : String} {i : Nat}

/-- A step along an arc is a step along an edge. -/
lemma Holds.exists_edge_of_mem_adjacent (h : graph.Holds edges) {direction : Direction}
    (hi : graph.addresses[i]? = some address) {j : Nat} (hj : j ∈ graph.adjacent direction i) :
    ∃ e ∈ edges, direction.near e.source e.target = address ∧
      graph.addresses[j]? = some (direction.far e.source e.target) := by
  simp only [adjacent, List.mem_map, List.mem_filter, beq_iff_eq] at hj
  obtain ⟨arc, ⟨harc, rfl⟩, rfl⟩ := hj
  obtain ⟨e, he, heq⟩ := h.exists_edge harc
  have hnear := (near_eq_some direction heq).symm.trans hi
  exact ⟨e, he, Option.some.inj hnear, far_eq_some direction heq⟩

lemma Holds.exists_adjacent_of_mem (h : graph.Holds edges) (direction : Direction)
    {e : CallEdge} (he : e ∈ edges)
    (hi : graph.addresses[i]? = some (direction.near e.source e.target)) :
    ∃ j ∈ graph.adjacent direction i,
      graph.addresses[j]? = some (direction.far e.source e.target) := by
  obtain ⟨arc, harc, heq⟩ := h.exists_arc he
  have hnear := (h.numbers _ _).mpr (near_eq_some direction heq)
  have hsame : direction.near arc.source arc.target = i :=
    Option.some.inj (hnear.symm.trans ((h.numbers _ _).mpr hi))
  refine ⟨_, ?_, far_eq_some direction heq⟩
  exact List.mem_map.mpr ⟨arc, List.mem_filter.mpr ⟨harc, beq_iff_eq.mpr hsame⟩, rfl⟩

lemma Holds.near_ne_of_lookup_eq_none (h : graph.Holds edges) (direction : Direction)
    (hnone : graph.numbers.lookup address = none) {e : CallEdge} (he : e ∈ edges) :
    direction.near e.source e.target ≠ address := by
  rintro rfl
  obtain ⟨arc, -, heq⟩ := h.exists_arc he
  rw [h.numbers.lookup_eq_none_iff] at hnone
  exact hnone (List.mem_of_getElem? (near_eq_some direction heq))

lemma Holds.mem_neighbours_iff (h : graph.Holds edges) (direction : Direction) :
    other ∈ graph.neighbours direction address ↔
      ∃ e ∈ edges, direction.near e.source e.target = address ∧
        direction.far e.source e.target = other := by
  rw [neighbours]
  split
  case h_1 i hi =>
    have hnumber := (h.numbers address i).mp hi
    rw [List.mem_filterMap]
    constructor
    · rintro ⟨j, hj, hother⟩
      obtain ⟨e, he, hnear, hfar⟩ := h.exists_edge_of_mem_adjacent hnumber hj
      exact ⟨e, he, hnear, Option.some.inj (hfar.symm.trans hother)⟩
    · rintro ⟨e, he, rfl, rfl⟩
      exact h.exists_adjacent_of_mem direction he hnumber
  case h_2 hnone =>
    refine iff_of_false List.not_mem_nil ?_
    rintro ⟨e, he, hnear, -⟩
    exact h.near_ne_of_lookup_eq_none direction hnone he hnear

lemma Holds.isUncalled_iff (h : graph.Holds edges) :
    graph.isUncalled address = true ↔ ∀ e ∈ edges, e.target ≠ address := by
  rw [isUncalled]
  split
  case h_1 i hi =>
    have hnumber := (h.numbers address i).mp hi
    rw [List.isEmpty_iff, List.eq_nil_iff_forall_not_mem]
    constructor
    · rintro hempty e he rfl
      obtain ⟨j, hj, -⟩ := h.exists_adjacent_of_mem .incoming he hnumber
      exact hempty j hj
    · intro hnone j hj
      obtain ⟨e, he, hnear, -⟩ := h.exists_edge_of_mem_adjacent hnumber hj
      exact hnone e he hnear
  case h_2 hnone =>
    refine iff_of_true rfl fun e he => ?_
    exact h.near_ne_of_lookup_eq_none .incoming hnone he

end CallGraph

/-! ## Neighbours in order -/

namespace SymbolGraph

lemma mem_neighbours_iff (graph : SymbolGraph) (direction : CallGraph.Direction)
    {address other : String} :
    other ∈ graph.neighbours direction address ↔
      ∃ e ∈ graph.edges, direction.near e.source e.target = address ∧
        direction.far e.source e.target = other := by
  rw [neighbours, Text.mem_sortedDistinct]
  exact (CallGraph.holds_ofEdges graph.edges).mem_neighbours_iff direction

end SymbolGraph

end ScriptSurvey
