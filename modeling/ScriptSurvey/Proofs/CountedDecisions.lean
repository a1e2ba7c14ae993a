import ScriptSurvey.Metrics.Complexity
import ScriptSurvey.Proofs.DistinctPlaces
import ScriptSurvey.Proofs.SheetPlaces

/-!
# Counted decisions

A decision belongs to the nearest function with a block around it. The complexity of a function
counts those of its decisions that are read: decisions in functions with a block inside it are left to
these, decisions in arrows without a block are counted.
-/
namespace ScriptSurvey.Extraction

open Syntax (Node Place Kind FlowToken)

/-- The place decides between two ways on: it branches, loops, is a case of a switch other than the
default one, handles an error, or stops at its first operand. -/
def isDecision (p : Place) : Bool :=
  match p.kind with
  | .ifStatement | .forStatement | .forInStatement | .whileStatement | .doStatement | .switchCase
  | .catchClause | .ternary => true
  | .binary => (p.node.field? "operator").any fun o =>
      o.label == "&&" || o.label == "||" || o.label == "??"
  | _ => false

def decisionsOf (f : Place) : List Place :=
  ((functionParts f).flatMap placesIn).filter fun q =>
    isDecision q && decide (around isMeasured q = some f)

instance (p q : Place) : Decidable (Reads p q) := decidable_of_iff _ mem_readPlaces_iff

section

variable {f q : Place}

lemma operatorToken?_eq (operator : String) :
    (operator == "&&" || operator == "||" || operator == "??") =
      (Syntax.operatorToken? operator).any (·.isDecision) := by
  unfold Syntax.operatorToken?
  split <;> simp_all [FlowToken.isDecision]

lemma isDecision_eq (p : Place) : isDecision p = p.node.flowToken?.any (·.isDecision) := by
  unfold isDecision Node.flowToken? Place.kind
  cases p.node.kind
  case binary =>
    cases p.node.field? "operator" with
    | none => rfl
    | some o => exact operatorToken?_eq o.label
  all_goals rfl

/-- The decisions that are read inside a function and not inside a closer one are its decisions that
are read. -/
lemma filter_within_perm (hf : isMeasured f = true) :
    ((within isMeasured f).filter isDecision).Perm
      ((decisionsOf f).filter fun q => decide (Reads f q)) := by
  have hfunction : f.kind.isFunction = true := (Bool.and_eq_true_iff.mp hf).1
  have hparts : ((functionParts f).flatMap placesIn).Nodup :=
    descends_placesIn.nodup_flatMap (nodup_functionParts f)
      (fun _ => mem_children_of_mem_functionParts) fun r _ => descends_placesIn.nodup r
  refine (List.perm_ext_iff_of_nodup (((descends_readPlaces.nodup f).filter _).filter _)
    ((hparts.filter _).filter _)).mpr fun q => ?_
  simp only [List.mem_filter, Bool.and_eq_true, decide_eq_true_eq]
  constructor
  · rintro ⟨⟨hread, haround⟩, hdecision⟩
    have hwithin : q ∈ within isMeasured f :=
      List.mem_filter.mpr ⟨hread, decide_eq_true haround⟩
    rw [within_eq hf, readChildren_of_isFunction hfunction] at hwithin
    obtain ⟨r, hr, hq⟩ := List.mem_flatMap.mp hwithin
    have hinside : q ∈ placesIn r :=
      (mem_readPlaces_iff.mp (List.mem_of_mem_filter hq)).mem_preorder
    exact ⟨⟨List.mem_flatMap.mpr ⟨r, hr, hinside⟩, hdecision, haround⟩,
      mem_readPlaces_iff.mp hread⟩
  · rintro ⟨⟨-, hdecision, haround⟩, hread⟩
    exact ⟨⟨mem_readPlaces_iff.mpr hread, haround⟩, hdecision⟩

/-- The complexity is counted over the decisions that are read. -/
lemma cyclomatic_factsOf (hf : isMeasured f = true) :
    Complexity.cyclomatic (factsOf f (flowOf f) (keysOf f)) =
      1 + ((decisionsOf f).filter fun q => decide (Reads f q)).length := by
  rw [← (filter_within_perm hf).length_eq, ← List.countP_eq_length_filter, Complexity.cyclomatic,
    factsOf, flowOf, List.countP_filterMap]
  refine congrArg (1 + ·) (List.countP_congr fun q _ => ?_)
  rw [isDecision_eq]
  cases q.node.flowToken? <;> rfl

end

/-- The functions of a sheet are those that are read and have a block as their body. The complexity
of each is one more than the number of its decisions that are read, and so one more than the number
of all its decisions just when all are read. -/
theorem gather_cyclomatic (path : Path) (language : Language) (lineCount : Nat) (tree : Node) :
    List.Forall₂ (fun facts f =>
        facts = factsOf f facts.flow (keysOf f) ∧
        Complexity.cyclomatic facts =
          1 + ((decisionsOf f).filter fun q => decide (Reads f q)).length ∧
        (Complexity.cyclomatic facts = 1 + (decisionsOf f).length ↔
          ∀ q ∈ decisionsOf f, Reads f q))
      (gather path language lineCount tree).functions
      ((readPlaces (Place.ofRoot tree)).filter isMeasured) := by
  rw [gather_functions, List.forall₂_map_left_iff, List.forall₂_same]
  intro f hf
  have hcount := cyclomatic_factsOf (List.mem_filter.mp hf).2
  refine ⟨rfl, hcount, ?_⟩
  rw [hcount, Nat.add_left_cancel_iff, List.length_filter_eq_length_iff]
  simp only [decide_eq_true_eq]

/-- The function `f`, which takes `a` from its parameter, with a default that is decided. -/
def defaultTree : Node :=
  let pattern := "\x7b a = o ? 1 : 2 \x7d"
  let body := "\x7b const " ++ pattern ++ " = o; \x7d"
  part "program" "" ("function f(o) " ++ body) 0
    [part "function_declaration" "" ("function f(o) " ++ body) 0
      [sign "function" 0, part "identifier" "name" "f" 0 [],
        part "formal_parameters" "parameters" "(o)" 0
          [sign "(" 0, part "identifier" "" "o" 0 [], sign ")" 0],
        part "statement_block" "body" body 0
          [sign "\x7b" 0,
            part "lexical_declaration" "" ("const " ++ pattern ++ " = o;") 0
              [{ sign "const" 0 with field := "kind" },
                part "variable_declarator" "" (pattern ++ " = o") 0
                  [part "object_pattern" "name" pattern 0
                      [sign "\x7b" 0,
                        part "object_assignment_pattern" "" "a = o ? 1 : 2" 0
                          [part "shorthand_property_identifier_pattern" "left" "a" 0 [],
                            sign "=" 0,
                            part "ternary_expression" "right" "o ? 1 : 2" 0
                              [part "identifier" "condition" "o" 0 [], sign "?" 0,
                                part "number" "consequence" "1" 0 [], sign ":" 0,
                                part "number" "alternative" "2" 0 []]],
                        sign "\x7d" 0],
                    sign "=" 0, part "identifier" "value" "o" 0 []],
                sign ";" 0],
            sign "\x7d" 0]]]

/-- A decision in the pattern of a variable is not counted. -/
theorem decision_in_pattern :
    defaultTree.hasError = false ∧
      (defaultTree.places.filter isMeasured).map
        (fun f => (functionName? f, 1 + (decisionsOf f).length)) = [(some "f", 2)] ∧
      ∀ path language lineCount, (gather path language lineCount defaultTree).functions.map
        (fun facts => (facts.name, Complexity.cyclomatic facts)) = [(some "f", 1)] := by
  have hfunctions : (harvest Scope.outer (Place.ofRoot defaultTree)).functions.map
      (fun facts => (facts.name, Complexity.cyclomatic facts)) = [(some "f", 1)] := by
    decide +kernel
  exact ⟨by decide +kernel, by decide +kernel, fun _ _ _ => hfunctions⟩

end ScriptSurvey.Extraction
