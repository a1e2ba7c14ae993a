import Mathlib.Data.List.Flatten
import ScriptSurvey.Proofs.CallReading

/-!
# Listed imports and exports

The imports and exports of a file are told place by place and listed by line. Nothing is lost on the
way, and what stands on one line keeps its order.
-/
namespace ScriptSurvey.Extraction

open Syntax (Node Place Kind)

section

variable {α : Type} {line : α → Nat} {items group : List α}

lemma mem_byLine {a : α} : a ∈ byLine line items ↔ a ∈ items := List.mem_mergeSort

lemma sublist_byLine {n : Nat} (h : group.Sublist items) (hline : ∀ a ∈ group, line a = n) :
    group.Sublist (byLine line items) := by
  refine List.sublist_mergeSort ?_ ?_ ?_ h
  · intro a b c hab hbc
    simp only [decide_eq_true_eq] at hab hbc ⊢
    omega
  · intro a b
    simp only [Bool.or_eq_true, decide_eq_true_eq]
    omega
  · refine List.pairwise_of_forall_mem_list fun a ha b hb => ?_
    rw [hline a ha, hline b hb]
    exact decide_eq_true (Nat.le_refl n)

lemma sublist_flatMap_of_mem {β : Type} {l : List β} {b : β} (f : β → List α) (h : b ∈ l) :
    (f b).Sublist (l.flatMap f) := by
  have hsingle := (List.singleton_sublist.mpr h).flatMap f
  rwa [List.flatMap_singleton] at hsingle

end

/-! ## Exports -/

/-- The exports in the order of the tree: those of statements, then those of assignments. -/
def exportsByPlace (tree : Node) : List ExportBinding :=
  ((tree.places.filter fun p => isExportStatement p.node).flatMap fun p => statementExports p.node)
    ++ tree.places.flatMap fun p =>
      match assignedMember? p with
      | some target => assignmentExports target p.node
      | none => []

lemma mem_exports {tree : Node} {e : ExportBinding} : e ∈ exports tree ↔ e ∈ exportsByPlace tree :=
  mem_byLine

section

variable {statement declaration : Node}

lemma line_of_mem_statementExports {e : ExportBinding} (h : e ∈ statementExports statement) :
    e.line = statement.line := by
  unfold statementExports at h
  dsimp only at h
  split at h
  · simp only [clauseExports, List.mem_filterMap, Option.map_eq_some_iff] at h
    obtain ⟨spec, -, name, -, rfl⟩ := h
    rfl
  · split at h
    · simp only [Option.mem_toList, Option.map_eq_some_iff] at h
      obtain ⟨name, -, rfl⟩ := h
      rfl
    · split_ifs at h
      · cases h
      · rw [List.mem_singleton.mp h]
      · cases hdeclaration : statement.field? "declaration" with
        | none => simp [hdeclaration] at h
        | some declaration =>
          rw [hdeclaration, Option.map_some, Option.getD_some, declarationExports] at h
          obtain ⟨name, -, rfl⟩ := List.mem_map.mp h
          rfl

/-- The exports of a statement stand together in their order. -/
theorem statementExports_sublist {tree : Node} {p : Place} (hp : p ∈ tree.places)
    (hstatement : isExportStatement p.node = true) :
    (statementExports p.node).Sublist (exports tree) := by
  have hmem : p ∈ tree.places.filter fun q => isExportStatement q.node :=
    List.mem_filter.mpr ⟨hp, hstatement⟩
  have hstatements := sublist_flatMap_of_mem (fun q : Place => statementExports q.node) hmem
  exact sublist_byLine (hstatements.trans (List.sublist_append_left _ _)) fun e he =>
    line_of_mem_statementExports he

/-- The statement exports what it declares, and nothing else. -/
structure ExportsDeclaration (statement declaration : Node) : Prop where
  declares : statement.field? "declaration" = some declaration
  noClause : statement.childLabelled? "export_clause" = none
  noNamespace : statement.childLabelled? "namespace_export" = none
  noSource : exportSource? statement = none
  noDefault : statement.hasToken "default" = false

lemma ExportsDeclaration.statementExports_eq (h : ExportsDeclaration statement declaration) :
    statementExports statement = declarationExports statement.line declaration := by
  simp [statementExports, h.noClause, h.noNamespace, h.noSource, h.noDefault, h.declares]

def isVariableStatement (declaration : Node) : Bool :=
  declaration.label == "lexical_declaration" || declaration.label == "variable_declaration"

def declarators (declaration : Node) : List Node :=
  declaration.namedChildren.filter (·.label == "variable_declarator")

lemma declarationExports_of_isVariableStatement (h : isVariableStatement declaration = true)
    (line : Nat) : declarationExports line declaration =
      ((declarators declaration).flatMap fun d => ((d.field? "name").map offeredNames).getD []).map
        fun n => ⟨n, n, line, .named⟩ := by
  rw [declarationExports, show (declaration.label == "lexical_declaration" ||
    declaration.label == "variable_declaration") = true from h]
  rfl

end

/-! ## Sample statements -/

def declaratorNode (name value : Node) : Node :=
  part "variable_declarator" "" (name.text ++ " = " ++ value.text) 0 [name, sign "=" 0, value]

def constNode (field : String) (declarator : Node) : Node :=
  part "lexical_declaration" field ("const " ++ declarator.text ++ ";") 0
    [{ sign "const" 0 with field := "kind" }, declarator, sign ";" 0]

def exportNode (declaration : Node) : Node :=
  part "export_statement" "" ("export " ++ declaration.text) 0 [sign "export" 0, declaration]

def programNode (statement : Node) : Node := part "program" "" statement.text 0 [statement]

end ScriptSurvey.Extraction
