import Mathlib
import ScriptSurvey.Proofs.SymbolLookup

/-!
# Addresses of members

A call through a qualifier goes to a member: the code of the owner, a dot, and the code of the name
that is called, or this name as it stands when nothing declares it. Codes without dots keep owners and
members apart. Members are told apart as well, but for a name that nothing declares and that is
spelled like the code of another one: both share an address, and with it their callers.
-/
namespace ScriptSurvey

namespace Legend

/-- Nothing declares the first name, and it is spelled like the code of the second. -/
def Mistaken (legend : Legend) (name other : String) : Prop :=
  legend.codeOf? name = none ∧ legend.codeOf? other = some name

end Legend

namespace SymbolGraph

def ownerCode? (legend : Legend) (nodes : List GraphNode) (qualifier : String) : Option String :=
  (nodeCode? legend nodes qualifier).or (nodeCode? legend nodes (capitalized qualifier))

def calledOwner? (graph : SymbolGraph) (call : CallSite) : Option String :=
  call.qualifier.bind (ownerCode? graph.legend graph.nodes)

def memberPart (legend : Legend) (name : String) : String := (legend.codeOf? name).getD name

section

variable {legend : Legend} {name other : String}

lemma memberPart_eq_iff (h : legend.Consistent) : memberPart legend name = memberPart legend other ↔
    name = other ∨ legend.Mistaken name other ∨ legend.Mistaken other name := by
  rw [memberPart, memberPart, Legend.Mistaken, Legend.Mistaken]
  cases hname : legend.codeOf? name with
  | none =>
    cases hother : legend.codeOf? other with
    | none => simp
    | some code =>
      have hne : name ≠ other := by
        rintro rfl
        exact Option.some_ne_none code (hother.symm.trans hname)
      simp [hne, eq_comm]
  | some code =>
    cases hother : legend.codeOf? other with
    | none =>
      have hne : name ≠ other := by
        rintro rfl
        exact Option.some_ne_none code (hname.symm.trans hother)
      simp [hne]
    | some otherCode =>
      simp only [Option.getD_some, reduceCtorEq, false_and, or_false]
      constructor
      · rintro rfl
        exact h.codeOf?_inj hname hother
      · rintro rfl
        exact Option.some.inj (hname.symm.trans hother)

lemma memberPart_of_eq_some {code : String} (h : legend.codeOf? name = some code) :
    memberPart legend name = code := by
  rw [memberPart, h, Option.getD_some]

end

section

variable {graph : SymbolGraph} {call : CallSite} {owner target : String}

lemma exists_node_of_calledOwner? (h : graph.calledOwner? call = some owner) :
    ∃ n ∈ graph.nodes, n.code = owner := by
  obtain ⟨qualifier, -, hqualifier⟩ := Option.bind_eq_some_iff.mp h
  rcases Option.or_eq_some_iff.mp hqualifier with hplain | ⟨-, hcapital⟩
  · exact nodeCode?_mem hplain
  · exact nodeCode?_mem hcapital

lemma callTarget?_eq_some_iff : callTarget? graph.legend graph.nodes call = some target ↔
    call.qualifier = none ∧ nodeCode? graph.legend graph.nodes call.callee = some target ∨
      ∃ owner, graph.calledOwner? call = some owner ∧
        owner ++ "." ++ memberPart graph.legend call.callee = target := by
  rw [callTarget?, calledOwner?]
  cases call.qualifier with
  | none => simp
  | some qualifier =>
    simp only [reduceCtorEq, false_and, false_or, Option.bind_some]
    exact Option.map_eq_some_iff

end

/-! ## Equal addresses -/

/-- Both calls are plain calls of the node, or calls of its members under one name or under a name
and one that is mistaken for it. -/
def Meet (graph : SymbolGraph) (node : GraphNode) (a b : CallSite) : Prop :=
  (a.qualifier = none ∧ b.qualifier = none ∧ a.callee = node.name ∧ b.callee = node.name) ∨
    (graph.calledOwner? a = some node.code ∧ graph.calledOwner? b = some node.code ∧
      (a.callee = b.callee ∨ graph.legend.Mistaken a.callee b.callee ∨
        graph.legend.Mistaken b.callee a.callee))

lemma address_inj {owner other : String} (howner : '.' ∉ owner.toList) (hother : '.' ∉ other.toList)
    {member member' : String} (h : owner ++ "." ++ member = other ++ "." ++ member') :
    owner = other ∧ member = member' := by
  have hsplit := Text.splitOnce_append howner member
  rw [h, Text.splitOnce_append hother] at hsplit
  obtain ⟨rfl, rfl⟩ := Prod.mk.inj (Option.some.inj hsplit)
  exact ⟨rfl, rfl⟩

section

variable {project : Project}

lemma eq_name_of_nodeCode? {node : GraphNode} {name : String} (hnode : node ∈ (build project).nodes)
    (h : nodeCode? (build project).legend (build project).nodes name = some node.code) :
    name = node.name := by
  obtain ⟨hcode, -⟩ := Option.filter_eq_some_iff.mp h
  exact (consistent_build project).codeOf?_inj hcode (codeOf?_name_of_mem_nodes hnode)

variable (hdot : ∀ e ∈ (build project).legend.entries, '.' ∉ e.code.toList)

include hdot

lemma noDot_of_codeOf? {name code : String} (h : (build project).legend.codeOf? name = some code) :
    '.' ∉ code.toList :=
  hdot _ ((consistent_build project).codeOf?_eq_some_iff.mp h)

lemma noDot_code {node : GraphNode} (hnode : node ∈ (build project).nodes) :
    '.' ∉ node.code.toList :=
  noDot_of_codeOf? hdot (codeOf?_name_of_mem_nodes hnode)

/-- The calls that go to a member of a node, under the name of the member or one mistaken for it. -/
lemma callTarget?_eq_member_iff {node : GraphNode} (hnode : node ∈ (build project).nodes)
    {name code : String} (hname : (build project).legend.codeOf? name = some code)
    (call : CallSite) :
    callTarget? (build project).legend (build project).nodes call =
        some (node.code ++ "." ++ code) ↔
      (build project).calledOwner? call = some node.code ∧
        (call.callee = name ∨ (build project).legend.Mistaken call.callee name) := by
  have hlegend := consistent_build project
  have hmember : (call.callee = name ∨ (build project).legend.Mistaken call.callee name) ↔
      memberPart (build project).legend call.callee = code := by
    rw [← memberPart_of_eq_some hname, memberPart_eq_iff hlegend]
    have hdeclared : ¬ (build project).legend.Mistaken name call.callee := fun hmistaken =>
      Option.some_ne_none code (hname.symm.trans hmistaken.1)
    simp [hdeclared]
  rw [callTarget?_eq_some_iff, hmember]
  constructor
  · rintro (⟨-, hplain⟩ | ⟨owner, howner, haddress⟩)
    · exfalso
      obtain ⟨hcode, -⟩ := Option.filter_eq_some_iff.mp hplain
      exact noDot_of_codeOf? hdot hcode (by simp)
    · obtain ⟨n, hn, rfl⟩ := exists_node_of_calledOwner? howner
      obtain ⟨hcode, hpart⟩ := address_inj (noDot_code hdot hn) (noDot_code hdot hnode) haddress
      rw [howner, hcode]
      exact ⟨rfl, hpart⟩
  · rintro ⟨howner, hpart⟩
    exact Or.inr ⟨node.code, howner, by rw [hpart]⟩

lemma exists_meet {a b : CallSite} {target : String}
    (ha : callTarget? (build project).legend (build project).nodes a = some target)
    (hb : callTarget? (build project).legend (build project).nodes b = some target) :
    ∃ node ∈ (build project).nodes, (build project).Meet node a b := by
  rw [callTarget?_eq_some_iff] at ha hb
  -- a node's code has no dot, a member's address has one, so both calls are of one kind
  rcases ha with ⟨hqa, ha⟩ | ⟨owner, howner, ha⟩ <;> rcases hb with ⟨hqb, hb⟩ | ⟨other, hother, hb⟩
  · obtain ⟨node, hnode, rfl⟩ := nodeCode?_mem ha
    exact ⟨node, hnode, Or.inl
      ⟨hqa, hqb, eq_name_of_nodeCode? hnode ha, eq_name_of_nodeCode? hnode hb⟩⟩
  · obtain ⟨node, hnode, rfl⟩ := nodeCode?_mem ha
    exact absurd (by rw [← hb]; simp) (noDot_code hdot hnode)
  · obtain ⟨node, hnode, rfl⟩ := nodeCode?_mem hb
    exact absurd (by rw [← ha]; simp) (noDot_code hdot hnode)
  · obtain ⟨node, hnode, rfl⟩ := exists_node_of_calledOwner? howner
    obtain ⟨n, hn, rfl⟩ := exists_node_of_calledOwner? hother
    obtain ⟨hcode, hpart⟩ :=
      address_inj (noDot_code hdot hnode) (noDot_code hdot hn) (ha.trans hb.symm)
    rw [memberPart_eq_iff (consistent_build project)] at hpart
    exact ⟨node, hnode, Or.inr ⟨howner, by rw [hother, hcode], hpart⟩⟩

end

/-- If no code has a dot, calls with one target go to one node, as plain calls of it or as calls of
one of its members; these have one name, or nothing declares the name in one of them and it is spelled
like the code of the other. So the callers of a member are the callers of its name and of such a
name. -/
theorem callTarget?_members (project : Project)
    (hdot : ∀ e ∈ (build project).legend.entries, '.' ∉ e.code.toList) :
    (∀ a b target,
      callTarget? (build project).legend (build project).nodes a = some target →
      callTarget? (build project).legend (build project).nodes b = some target →
      ∃ node ∈ (build project).nodes, (build project).Meet node a b) ∧
    ∀ node ∈ (build project).nodes, ∀ name code,
      (build project).legend.codeOf? name = some code → ∀ query found,
        (build project).lookup query = .ok found → found.address = node.code ++ "." ++ code →
          ∀ caller, caller ∈ found.callers ↔ ∃ sheet ∈ project.sheets, ∃ call ∈ sheet.calls,
            callSource (build project).legend project sheet call = caller ∧
            (build project).calledOwner? call = some node.code ∧
            (call.callee = name ∨ (build project).legend.Mistaken call.callee name) := by
  refine ⟨fun _ _ _ => exists_meet hdot, ?_⟩
  intro node hnode name code hname query found hfound haddress caller
  have hcallers := (hasNeighbours_of_lookup hfound).mem_callers_iff caller
  simp only [haddress, and_comm (b := _ = caller)] at hcallers
  rw [hcallers, exists_edge_iff]
  simp only [joins, Bool.and_eq_true, beq_iff_eq, callTarget?_eq_member_iff hdot hnode hname]
  constructor
  · rintro ⟨site, hsite, hsource, htarget⟩
    obtain ⟨hsheet, hcall⟩ := mem_callSites.mp hsite
    exact ⟨site.1, hsheet, site.2, hcall, hsource, htarget⟩
  · rintro ⟨sheet, hsheet, call, hcall, hsource, htarget⟩
    exact ⟨(sheet, call), mem_callSites.mpr ⟨hsheet, hcall⟩, hsource, htarget⟩

/-- A function that calls something undeclared by the code of a method. -/
def mistakenSheet : FactSheet :=
  { FactSheet.failed ⟨true, ["app", "b.js"]⟩ .javaScript 3 with
    parseFailed := false
    declarations := [⟨"other", .function, none, 1, false, false⟩]
    calls := [⟨some "other", "fU", some "userService", 2⟩] }

def mistakenProject : Project :=
  { serviceProject with sheets := serviceProject.sheets ++ [mistakenSheet] }

lemma mistakenProject_codes :
    (∀ e ∈ (build mistakenProject).legend.entries, PlainCode e.code) ∧
      (build mistakenProject).legend.codeOf? "UserService" = some "US" ∧
      (build mistakenProject).legend.codeOf? "findUser" = some "fU" ∧
      (build mistakenProject).legend.codeOf? "fU" = none ∧
      (build mistakenProject).legend.codeOf? "userService" = none := by
  have hcodes : (build mistakenProject).legend.entries.map (·.code) =
      ["US", "fU", "ma", "ot"] := by
    cbv
  refine ⟨fun e he => ?_, by cbv⟩
  have hplain : ∀ code ∈ ["US", "fU", "ma", "ot"], PlainCode code := by decide
  exact hplain e.code (hcodes ▸ List.mem_map_of_mem he)

lemma serviceNode_mem_mistakenProject : serviceNode ∈ (build mistakenProject).nodes := by
  have hbare : declaredNode? (nodeSites mistakenProject) "UserService" "US" =
      some { serviceNode with methods := [], properties := [] } := by
    cbv
  have hmembers : completed mistakenProject { serviceNode with methods := [], properties := [] } =
      serviceNode := by
    cbv
  exact mem_nodes_iff.mpr ⟨_, ⟨_, _, mistakenProject_codes.2.1, hbare⟩, hmembers⟩

lemma calledOwner?_mistakenProject {call : CallSite} (h : call.qualifier = some "userService") :
    (build mistakenProject).calledOwner? call = some "US" := by
  obtain ⟨-, hclass, -, -, hvariable⟩ := mistakenProject_codes
  have hcapital : capitalized "userService" = "UserService" := by cbv
  have hnode : ∃ n ∈ (build mistakenProject).nodes, n.code = "US" :=
    ⟨_, serviceNode_mem_mistakenProject, rfl⟩
  rw [calledOwner?, h]
  simpa [ownerCode?, nodeCode?, hvariable, hcapital, hclass] using hnode

theorem callTarget?_members_mistaken :
    (∀ e ∈ (build mistakenProject).legend.entries, '.' ∉ e.code.toList) ∧
      ∃ found, (build mistakenProject).lookup "US.fU" = .ok found ∧
        found.name = "UserService.findUser" ∧ "ma" ∈ found.callers ∧ "ot" ∈ found.callers := by
  obtain ⟨hplain, hclass, hmethod, hundeclared, -⟩ := mistakenProject_codes
  have hdot : ∀ e ∈ (build mistakenProject).legend.entries, '.' ∉ e.code.toList :=
    fun e he => (hplain e he).noDot
  have hfound := lookup_member hplain serviceNode_mem_mistakenProject
    (List.mem_singleton.mpr rfl) hmethod
  have hcallers := (callTarget?_members mistakenProject hdot).2 serviceNode
    serviceNode_mem_mistakenProject "findUser" "fU" hmethod _ _ hfound rfl
  refine ⟨hdot, _, hfound, rfl, (hcallers "ma").mpr ?_, (hcallers "ot").mpr ?_⟩
  · refine ⟨serviceProject.sheets[0], by decide, ⟨some "main", "findUser", some "userService", 7⟩,
      by decide, by cbv, calledOwner?_mistakenProject rfl, Or.inl rfl⟩
  · refine ⟨mistakenSheet, by decide, ⟨some "other", "fU", some "userService", 2⟩,
      by decide, by cbv, calledOwner?_mistakenProject rfl, Or.inr ⟨hundeclared, hmethod⟩⟩

/-- Calls of different members may have one target. -/
theorem members_with_one_address :
    ¬ ∀ project : Project, (∀ e ∈ (build project).legend.entries, '.' ∉ e.code.toList) →
      ∀ a ∈ callSites project, ∀ b ∈ callSites project, ∀ target,
        callTarget? (build project).legend (build project).nodes a.2 = some target →
        callTarget? (build project).legend (build project).nodes b.2 = some target →
        a.2.callee = b.2.callee := by
  intro hall
  obtain ⟨hplain, -, hmethod, hundeclared, -⟩ := mistakenProject_codes
  have hdot : ∀ e ∈ (build mistakenProject).legend.entries, '.' ∉ e.code.toList :=
    fun e he => (hplain e he).noDot
  have htarget := callTarget?_eq_member_iff hdot serviceNode_mem_mistakenProject hmethod
  have hsame := hall mistakenProject hdot
    (serviceProject.sheets[0], ⟨some "main", "findUser", some "userService", 7⟩) (by decide)
    (mistakenSheet, ⟨some "other", "fU", some "userService", 2⟩) (by decide) _
    ((htarget _).mpr ⟨calledOwner?_mistakenProject rfl, Or.inl rfl⟩)
    ((htarget _).mpr ⟨calledOwner?_mistakenProject rfl, Or.inr ⟨hundeclared, hmethod⟩⟩)
  exact absurd hsame (by decide)

end SymbolGraph

end ScriptSurvey
