import ScriptSurvey.Proofs.SheetPlaces
import ScriptSurvey.Proofs.TextOrder

/-!
# Coherent sheets

The lists of a sheet are gathered side by side, and agree with each other: calls come from declared
functions and are told apart by caller and key, what a body calls is among the calls, and the methods
that are declared for a class are those that its entries list.
-/
namespace ScriptSurvey

namespace FactSheet

/-- The methods that are declared for the classes of a name, with their lines. -/
def declaredMethods (sheet : FactSheet) (name : String) : List (String × Nat) :=
  (sheet.declarations.filter fun d => d.kind == .method && d.owner == some name).map fun d =>
    (d.name, d.line)

/-- The methods that the entries of a name list. -/
def listedMethods (sheet : FactSheet) (name : String) : List (String × Nat) :=
  (sheet.classes.filter (·.name == name)).flatMap (·.methods)

structure Coherent (sheet : FactSheet) : Prop where
  caller : ∀ c ∈ sheet.calls, ∀ key, c.caller = some key → ∃ d ∈ sheet.declarations, d.key = key
  distinct : (sheet.calls.map fun c => (c.caller, c.key)).Nodup
  body : ∀ f ∈ sheet.functions, ∀ key ∈ f.calls, ∃ c ∈ sheet.calls, c.key = key
  methods : ∀ name, (sheet.declaredMethods name).Perm (sheet.listedMethods name)

end FactSheet

namespace Extraction

open Syntax (Node Place Kind)

/-! ## Callers and called keys -/

section

variable {p q r : Place}

lemma Reads.trans (hpq : Reads p q) (hqr : Reads q r) : Reads p r := by
  induction hpq with
  | here p => exact hqr
  | inside child _ ih => exact .inside child (ih hqr)

/-- What is around a place that is read is read as well, or is around where reading starts. -/
lemma Reads.enclosing {c : Place} (h : Reads p q) (hc : c ∈ enclosingPlaces q.above) :
    c ∈ enclosingPlaces p.above ∨ Reads p c := by
  induction h with
  | here p => exact Or.inl hc
  | @inside p r q child _ ih =>
    rcases ih hc with hc | hread
    · rw [enclosingPlaces_of_mem_children (mem_children_of_mem_readChildren child),
        List.mem_cons] at hc
      rcases hc with rfl | hc
      · exact Or.inr (.here c)
      · exact Or.inl hc
    · exact Or.inr (.inside child hread)

lemma caller_of_callAt? {c : CallSite} (h : callAt? p = some c) : c.caller = callerAt? p := by
  rw [callAt?, ownCall?, Option.bind_eq_some_iff] at h
  obtain ⟨callee, -, h⟩ := h
  rw [callSite?, Option.bind_eq_some_iff] at h
  obtain ⟨⟨name, qualifier⟩, -, h⟩ := h
  dsimp only at h
  split_ifs at h
  obtain rfl := Option.some.inj h
  rfl

/-- The caller at a place of a tree is declared at some place that is read. -/
lemma exists_declarationAt?_of_callerAt? {tree : Node} {key : String}
    (h : Reads (Place.ofRoot tree) p) (hkey : callerAt? p = some key) :
    ∃ q, Reads (Place.ofRoot tree) q ∧ ∃ d, declarationAt? q = some d ∧ d.key = key := by
  obtain ⟨q, hq, hcallable⟩ := List.exists_of_findSome?_eq_some hkey
  obtain ⟨d, hd, rfl⟩ := Option.map_eq_some_iff.mp hcallable
  have hread : Reads (Place.ofRoot tree) q := (h.enclosing hq).resolve_left List.not_mem_nil
  exact ⟨q, hread, d, by rw [declarationAt?, hd, Option.some_or], rfl⟩

end

/-! ## Methods -/

section

variable {p q : Place} {d : Declaration}

lemma kind_of_functionAt? (h : functionAt? p = some d) : d.kind = .function := by
  unfold functionAt? at h
  split_ifs at h <;> · obtain rfl := Option.some.inj h; rfl

lemma kind_of_classAt? (h : classAt? p = some d) : d.kind = .classDef := by
  unfold classAt? at h
  split_ifs at h
  obtain rfl := Option.some.inj h
  rfl

lemma methodAt?_eq_some (h : methodAt? p = some d) :
    d.kind = .method ∧ d.owner = (classAround? p).map className := by
  unfold methodAt? at h
  split_ifs at h
  obtain ⟨c, hc, rfl⟩ := Option.map_eq_some_iff.mp h
  exact ⟨rfl, by rw [hc]; rfl⟩

lemma methodAt?_eq_none_of_functionAt? (h : functionAt? p = some d) : methodAt? p = none := by
  have hkind : p.kind ≠ .methodDefinition ∧ p.kind ≠ .fieldDefinition := by
    constructor <;> intro hkind <;>
      simp [functionAt?, isDeclaredFunction, isFunctionValue, namesValue, hkind] at h
  exact methodAt?_of_kind_ne hkind.1 hkind.2

lemma filter_declarationAt? (p : Place) :
    (declarationAt? p).filter (fun d => d.kind == .method) = methodAt? p := by
  rw [declarationAt?, callableAt?]
  cases hfunction : functionAt? p with
  | some d =>
    rw [methodAt?_eq_none_of_functionAt? hfunction]
    simp [Option.filter, kind_of_functionAt? hfunction]
  | none =>
    cases hmethod : methodAt? p with
    | some d => simp [Option.filter, (methodAt?_eq_some hmethod).1]
    | none =>
      cases hclass : classAt? p with
      | some d => simp [Option.filter, kind_of_classAt? hclass]
      | none => rfl

/-- The method that a place declares for the classes of a name. -/
def methodFor? (name : String) (p : Place) : Option (String × Nat) :=
  ((methodAt? p).filter fun d => d.owner == some name).map fun d => (d.name, d.line)

lemma methodFor?_of_classAround? (name : String) (hq : classAround? q = some p) :
    methodFor? name q =
      if className p == name then (methodAt? q).map fun d => (d.name, d.line) else none := by
  rw [methodFor?]
  cases hmethod : methodAt? q with
  | none => simp
  | some d =>
    rw [Option.filter_some, (methodAt?_eq_some hmethod).2, hq]
    change Option.map _ (if (some (className p) == some name) = true then some d else none) = _
    rw [Option.some_beq_some]
    split_ifs <;> rfl

lemma methodFor?_eq_none (name : String) (hq : classAround? q = none) :
    methodFor? name q = none := by
  simp [methodFor?, methodAt?, hq]

end

section

variable (path : Path) (language : Language) (lineCount : Nat) (tree : Node) (name : String)

lemma gather_declaredMethods : (gather path language lineCount tree).declaredMethods name =
    (readPlaces (Place.ofRoot tree)).filterMap (methodFor? name) := by
  rw [FactSheet.declaredMethods, gather_declarations, List.filter_filterMap, List.map_filterMap]
  refine List.filterMap_congr fun q _ => ?_
  rw [methodFor?, ← filter_declarationAt?, Option.filter_filter]

lemma gather_listedMethods : (gather path language lineCount tree).listedMethods name =
    ((readPlaces (Place.ofRoot tree)).filter isNamedClass).flatMap fun c =>
      if className c == name then methodsOf c else [] := by
  rw [FactSheet.listedMethods, gather_classes, List.filter_map, List.flatMap_map, flatMap_filter]
  rfl

/-- Every method that is declared belongs to one of the named classes that are read. -/
lemma gather_methods : ((gather path language lineCount tree).declaredMethods name).Perm
    ((gather path language lineCount tree).listedMethods name) := by
  rw [gather_declaredMethods, gather_listedMethods]
  have hperm := (readPlaces_perm isNamedClass (Place.ofRoot tree)).filterMap (methodFor? name)
  have houter : (beside isNamedClass (Place.ofRoot tree)).filterMap (methodFor? name) = [] := by
    rw [List.filterMap_eq_nil_iff]
    intro q hq
    exact methodFor?_eq_none name (of_decide_eq_true (List.mem_filter.mp hq).2)
  rw [List.filterMap_append, houter, List.append_nil, List.filterMap_flatMap] at hperm
  refine hperm.trans (.of_eq (List.flatMap_congr fun c _ => ?_))
  have hwithin : ∀ q ∈ within isNamedClass c, methodFor? name q =
      if className c == name then (methodAt? q).map fun d => (d.name, d.line) else none :=
    fun q hq => methodFor?_of_classAround? name (of_decide_eq_true (List.mem_filter.mp hq).2)
  rw [methodsOf, List.filterMap_congr hwithin]
  split_ifs
  · rfl
  · exact List.filterMap_eq_nil_iff.mpr fun _ _ => rfl

lemma gather_coherent : (gather path language lineCount tree).Coherent where
  caller := by
    intro c hc key hkey
    rw [gather_calls] at hc
    obtain ⟨q, hq, hcall⟩ := List.mem_filterMap.mp ((distinctCalls_sublist _).subset hc)
    obtain ⟨r, hr, d, hd, hdkey⟩ := exists_declarationAt?_of_callerAt? (mem_readPlaces_iff.mp hq)
      ((caller_of_callAt? hcall).symm.trans hkey)
    refine ⟨d, ?_, hdkey⟩
    rw [gather_declarations]
    exact List.mem_filterMap.mpr ⟨r, mem_readPlaces_iff.mpr hr, hd⟩
  distinct := by
    rw [gather_calls]
    exact nodup_distinctCalls _
  body := by
    intro f hf key hkey
    rw [gather_functions] at hf
    obtain ⟨p, hp, rfl⟩ := List.mem_map.mp hf
    obtain ⟨q, hq, hcall⟩ := List.mem_filterMap.mp (Text.mem_sortedDistinct.mp hkey)
    obtain ⟨c, hc, rfl⟩ := Option.map_eq_some_iff.mp hcall
    have hread : Reads (Place.ofRoot tree) q :=
      (mem_readPlaces_iff.mp (List.mem_of_mem_filter hp)).trans
        (mem_readPlaces_iff.mp (List.mem_of_mem_filter hq))
    obtain ⟨d, hd, -, hdkey⟩ := exists_mem_distinctCalls
      (List.mem_filterMap.mpr ⟨q, mem_readPlaces_iff.mpr hread, hc⟩)
    rw [gather_calls]
    exact ⟨d, hd, hdkey⟩
  methods := gather_methods path language lineCount tree

end

/-! ## Settled exports -/

lemma exists_map_exported {mark : Declaration → Declaration}
    (h : ∀ d, ∃ e : Bool, mark d = { d with exported := e }) (ds : List Declaration) :
    ∃ exported : Declaration → Bool,
      ds.map mark = ds.map fun d => { d with exported := exported d } := by
  choose exported hexported using h
  exact ⟨exported, List.map_congr_left fun d _ => hexported d⟩

lemma reconcileExports_declarations (sheet : FactSheet) :
    ∃ exported : Declaration → Bool, (reconcileExports sheet).declarations =
      sheet.declarations.map fun d => { d with exported := exported d } := by
  simp only [reconcileExports, List.map_map]
  refine exists_map_exported (fun d => ?_) _
  dsimp only [Function.comp_apply]
  split_ifs
  all_goals
    split
    · split_ifs <;> exact ⟨_, rfl⟩
    · exact ⟨_, rfl⟩

lemma coherent_reconcileExports {sheet : FactSheet} (h : sheet.Coherent) :
    (reconcileExports sheet).Coherent := by
  obtain ⟨exported, hdeclarations⟩ := reconcileExports_declarations sheet
  refine ⟨?_, h.distinct, h.body, fun name => ?_⟩
  · intro c hc key hkey
    obtain ⟨d, hd, rfl⟩ := h.caller c hc key hkey
    rw [hdeclarations]
    exact ⟨_, List.mem_map_of_mem hd, rfl⟩
  · have hmethods : (reconcileExports sheet).declaredMethods name =
        sheet.declaredMethods name := by
      rw [FactSheet.declaredMethods, hdeclarations, List.filter_map, List.map_map]
      rfl
    rw [hmethods]
    exact h.methods name

/-- Over every tree, the lists of its sheet agree, before exports are settled and after. -/
theorem gather_lists_agree (path : Path) (language : Language) (lineCount : Nat) (tree : Node) :
    (gather path language lineCount tree).Coherent ∧
      (reconcileExports (gather path language lineCount tree)).Coherent :=
  ⟨gather_coherent path language lineCount tree,
    coherent_reconcileExports (gather_coherent path language lineCount tree)⟩

end Extraction

end ScriptSurvey
