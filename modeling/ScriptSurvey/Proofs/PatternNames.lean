import ScriptSurvey.Proofs.ListedModules
import ScriptSurvey.Proofs.SheetPlaces

/-!
# Names in patterns

A pattern that takes a value apart binds names in its own file, and offers names to other files when
its variable is exported. The two agree but for defaults: the names that occur in the values of
defaults are offered as well, though nothing binds them.
-/
namespace ScriptSurvey.Extraction

open Syntax (Node Place Kind)

/-- What holds of a node when it holds of its children holds of every node. -/
theorem node_induction {motive : Node → Prop}
    (step : ∀ node : Node, (∀ c ∈ node.children, motive c) → motive node) (node : Node) :
    motive node := by
  induction hsize : sizeOf node using Nat.strongRecOn generalizing node with
  | _ size ih => exact step node fun c hc => ih _ (hsize ▸ Node.sizeOf_lt_of_mem hc) c rfl

/-! ## The parts of a pattern -/

def isPatternName (node : Node) : Bool :=
  node.label == "identifier" || node.label == "shorthand_property_identifier_pattern"

def isDefault (node : Node) : Bool :=
  node.label == "assignment_pattern" || node.label == "object_assignment_pattern"

/-- The parts that make up a pattern: of a pair the value, of a default what it is a default for. -/
def patternParts (node : Node) : List Node :=
  if node.label == "pair_pattern" then (node.field? "value").toList
  else if isDefault node then (node.field? "left").toList
  else node.namedChildren

def defaultValues (node : Node) : List Node :=
  if isDefault node then node.children.filter fun c => c.field != "left" && c.named else []

lemma mem_children_of_mem_patternParts {node c : Node} (h : c ∈ patternParts node) :
    c ∈ node.children := by
  unfold patternParts at h
  split_ifs at h
  · exact Node.mem_of_field? (Option.mem_toList.mp h)
  · exact Node.mem_of_field? (Option.mem_toList.mp h)
  · exact List.mem_of_mem_filter h

/-- The nodes of a pattern without the values of its defaults. -/
def patternNodes (node : Node) : List Node :=
  node :: if isPatternName node then []
    else (patternParts node).attach.flatMap fun ⟨c, _⟩ => patternNodes c
termination_by sizeOf node
decreasing_by exact Node.sizeOf_lt_of_mem (mem_children_of_mem_patternParts ‹_›)

def defaultNames (pattern : Node) : List String :=
  ((patternNodes pattern).flatMap defaultValues).flatMap offeredNames

def TargetsNamed (pattern : Node) : Prop :=
  ∀ d ∈ patternNodes pattern, isDefault d = true →
    (d.children.filter (·.field == "left")).map (·.named) = [true]

instance : DecidablePred TargetsNamed := fun pattern =>
  inferInstanceAs (Decidable (∀ d ∈ patternNodes pattern, isDefault d = true →
    (d.children.filter (·.field == "left")).map (·.named) = [true]))

section

variable {node : Node}

lemma patternNodes_eq (node : Node) : patternNodes node =
    node :: if isPatternName node then [] else (patternParts node).flatMap patternNodes := by
  conv_lhs => rw [patternNodes]
  simp only [List.flatMap_subtype, List.unattach_attach]

lemma flatMap_attach_filter {α : Type} (f : Node → List α) (nodes : List Node) :
    ((nodes.attach.filter (·.1.named)).flatMap fun c => f c.1) =
      (nodes.filter (·.named)).flatMap f := by
  rw [flatMap_filter, flatMap_filter]
  simp only [List.flatMap_subtype, List.unattach_attach]

lemma patternParts_of_other (hpair : node.label ≠ "pair_pattern")
    (hdefault : isDefault node = false) : patternParts node = node.namedChildren := by
  simp [patternParts, hpair, hdefault]

lemma boundNames_eq (node : Node) : boundNames node =
    if isPatternName node then [node.text] else (patternParts node).flatMap boundNames := by
  rw [boundNames]
  split
  case h_1 hlabel => simp [isPatternName, hlabel]
  case h_2 hlabel => simp [isPatternName, hlabel]
  case h_3 hlabel =>
    simp only [isPatternName, patternParts, hlabel]
    cases node.field? "value" <;> simp
  case h_4 hlabel =>
    simp only [isPatternName, isDefault, patternParts, hlabel]
    cases node.field? "left" <;> simp
  case h_5 hlabel =>
    simp only [isPatternName, isDefault, patternParts, hlabel]
    cases node.field? "left" <;> simp
  case h_6 hidentifier hshorthand hpair hassignment hobject =>
    have hname : isPatternName node = false := by simp_all [isPatternName]
    have hdefault : isDefault node = false := by simp_all [isDefault]
    rw [patternParts_of_other hpair hdefault, hname]
    exact flatMap_attach_filter boundNames node.children

lemma offeredNames_eq (node : Node) : offeredNames node =
    if isPatternName node then [node.text]
    else (if isDefault node then node.namedChildren else patternParts node).flatMap
      offeredNames := by
  rw [offeredNames]
  split
  case h_1 hlabel => simp [isPatternName, hlabel]
  case h_2 hlabel => simp [isPatternName, hlabel]
  case h_3 hlabel =>
    simp only [isPatternName, isDefault, patternParts, hlabel]
    cases node.field? "value" <;> simp
  case h_4 hidentifier hshorthand hpair =>
    have hname : isPatternName node = false := by simp_all [isPatternName]
    have hparts : (if isDefault node then node.namedChildren else patternParts node) =
        node.namedChildren := by
      cases hdefault : isDefault node with
      | true => rfl
      | false => exact patternParts_of_other hpair hdefault
    rw [hparts, hname]
    exact flatMap_attach_filter offeredNames node.children

lemma isDefault_of_isPatternName (h : isPatternName node = true) : isDefault node = false := by
  simp only [isPatternName, Bool.or_eq_true, beq_iff_eq] at h
  rcases h with h | h <;> simp [isDefault, h]

lemma defaultNames_of_isPatternName (h : isPatternName node = true) : defaultNames node = [] := by
  rw [defaultNames, patternNodes_eq, if_pos h]
  simp [defaultValues, isDefault_of_isPatternName h]

lemma defaultNames_eq (h : isPatternName node = false) : defaultNames node =
    (defaultValues node).flatMap offeredNames ++ (patternParts node).flatMap defaultNames := by
  rw [defaultNames, patternNodes_eq, h, List.flatMap_cons, List.flatMap_append]
  simp only [Bool.false_eq_true, if_false, List.flatMap_assoc]
  unfold defaultNames
  simp only [List.flatMap_assoc]

/-! ## Bound and offered names -/

lemma TargetsNamed.of_mem_patternParts (h : TargetsNamed node) (hname : isPatternName node = false)
    {c : Node} (hc : c ∈ patternParts node) : TargetsNamed c := by
  intro d hd
  apply h d
  rw [patternNodes_eq, hname]
  exact List.mem_cons_of_mem _ (List.mem_flatMap.mpr ⟨c, hc, hd⟩)

lemma namedChildren_of_isDefault (h : TargetsNamed node) (hdefault : isDefault node = true) :
    ∃ target, patternParts node = [target] ∧ target ∈ node.namedChildren ∧
      node.namedChildren.Perm (target :: defaultValues node) := by
  have hself : node ∈ patternNodes node := by
    rw [patternNodes_eq]
    exact List.mem_cons_self
  obtain ⟨target, htarget, hnamed⟩ := List.map_eq_singleton_iff.mp (h node hself hdefault)
  have hpair : (node.label == "pair_pattern") = false := by
    simp only [isDefault, Bool.or_eq_true, beq_iff_eq] at hdefault
    rcases hdefault with hlabel | hlabel <;> rw [hlabel] <;> rfl
  have hfield : node.field? "left" = some target := by
    rw [Node.field?, ← List.head?_filter, htarget]
    rfl
  have hleft : (node.namedChildren.filter (·.field == "left")) = [target] := by
    rw [Node.namedChildren, List.filter_comm, htarget]
    simp [hnamed]
  refine ⟨target, ?_, ?_, ?_⟩
  · simp [patternParts, hpair, hdefault, hfield]
  · exact List.mem_filter.mpr ⟨Node.mem_of_field? hfield, hnamed⟩
  · have hsplit := List.filter_append_perm (·.field == "left") node.namedChildren
    rw [hleft, Node.namedChildren, List.filter_filter] at hsplit
    simpa [defaultValues, hdefault, bne, Node.namedChildren] using hsplit.symm

/-- By induction on the pattern: what an exported pattern offers is what it binds and the names in
the values of its defaults. -/
theorem offeredNames_perm (node : Node) (h : TargetsNamed node) :
    (offeredNames node).Perm (boundNames node ++ defaultNames node) := by
  induction node using node_induction with
  | step node ih =>
    rw [offeredNames_eq, boundNames_eq]
    cases hname : isPatternName node with
    | true => simp [defaultNames_of_isPatternName hname]
    | false =>
      have hparts : ((patternParts node).flatMap offeredNames).Perm
          ((patternParts node).flatMap boundNames ++ (patternParts node).flatMap defaultNames) :=
        (List.Perm.flatMap_left _ fun c hc => ih c (mem_children_of_mem_patternParts hc)
          (h.of_mem_patternParts hname hc)).trans (List.flatMap_append_perm _ _ _).symm
      rw [defaultNames_eq hname]
      cases hdefault : isDefault node with
      | false => simpa [defaultValues, hdefault] using hparts
      | true =>
        obtain ⟨target, htarget, -, hchildren⟩ := namedChildren_of_isDefault h hdefault
        have hall := hchildren.flatMap_right offeredNames
        rw [htarget] at hparts ⊢
        simp only [List.flatMap_cons, List.flatMap_nil, List.append_nil] at hparts hall ⊢
        refine hall.trans ((hparts.append_right _).trans ?_)
        rw [List.append_assoc]
        exact List.perm_append_comm.append_left _

/-- By induction on the pattern: nothing that a pattern binds is left out, and the order is kept. -/
theorem boundNames_sublist (node : Node) (h : TargetsNamed node) :
    (boundNames node).Sublist (offeredNames node) := by
  induction node using node_induction with
  | step node ih =>
    rw [offeredNames_eq, boundNames_eq]
    cases hname : isPatternName node with
    | true => simp
    | false =>
      have hparts : ((patternParts node).flatMap boundNames).Sublist
          ((patternParts node).flatMap offeredNames) :=
        List.Sublist.flatMap_right _ fun c hc => ih c (mem_children_of_mem_patternParts hc)
          (h.of_mem_patternParts hname hc)
      cases hdefault : isDefault node with
      | false => simpa using hparts
      | true =>
        obtain ⟨target, htarget, hmem, -⟩ := namedChildren_of_isDefault h hdefault
        have hchild : [target].Sublist node.namedChildren := List.singleton_sublist.mpr hmem
        rw [htarget] at hparts ⊢
        exact hparts.trans (hchild.flatMap offeredNames)

/-- The two agree just when no name occurs in the value of a default. -/
lemma offeredNames_eq_boundNames_iff (h : TargetsNamed node) :
    offeredNames node = boundNames node ↔ defaultNames node = [] := by
  have hlength := (offeredNames_perm node h).length_eq
  rw [List.length_append] at hlength
  constructor
  · intro heq
    rw [heq] at hlength
    exact List.length_eq_zero_iff.mp (by omega)
  · intro hnone
    rw [hnone, List.length_nil] at hlength
    exact ((boundNames_sublist node h).eq_of_length (by omega)).symm

end

/-! ## Variables with a pattern -/

def ExportsPattern (statement pattern : Node) : Prop :=
  ∃ declaration declarator, ExportsDeclaration statement declaration ∧
    isVariableStatement declaration = true ∧ declarators declaration = [declarator] ∧
      declarator.field? "name" = some pattern

/-- The place is a variable that is not exported, and takes its value apart by the pattern. A single
name is no pattern when it names a function or a class. -/
structure BindsPattern (p : Place) (pattern : Node) : Prop where
  kind : p.kind = .variableDeclarator
  name : p.node.field? "name" = some pattern
  value : pattern.label = "identifier" → ∀ v, p.field? "value" = some v →
    isFunctionValue v = false ∧ v.kind ≠ .classDeclaration
  unexported : (p.parent?.map isExportChild).getD false = false

section

variable {statement pattern : Node} {p : Place}

lemma statementExports_of_exportsPattern (h : ExportsPattern statement pattern) :
    statementExports statement =
      (offeredNames pattern).map fun n => ⟨n, n, statement.line, .named⟩ := by
  obtain ⟨declaration, declarator, hexports, hvariables, hone, hname⟩ := h
  rw [hexports.statementExports_eq, declarationExports_of_isVariableStatement hvariables, hone]
  simp [hname]

lemma bindingsAt_of_bindsPattern (h : BindsPattern p pattern) :
    bindingsAt p = (boundNames pattern).map (⟨·, p.line⟩) := by
  have hnames : namesValue p = (pattern.label == "identifier") := by
    simp [namesValue, h.kind, h.name]
  simp only [bindingsAt, h.kind, h.name, h.unexported, hnames]
  by_cases hlabel : pattern.label = "identifier"
  · have hplain : ((p.field? "value").any fun v =>
        isFunctionValue v || v.kind == Kind.classDeclaration) = false := by
      cases hv : p.field? "value" with
      | none => rfl
      | some v =>
        obtain ⟨hfunction, hclass⟩ := h.value hlabel v hv
        simp [hfunction, hclass]
    simp [hplain, boundNames_eq, isPatternName, hlabel]
  · simp [hlabel]

end

/-- An exported variable offers every name that its pattern binds in its own file, in the same
order, and besides them the names that occur in the values of defaults. So the two lists agree just
when no default of the pattern has a name in its value. -/
theorem pattern_names_offered {pattern : Node} (htargets : TargetsNamed pattern)
    {statement : Node} (hexports : ExportsPattern statement pattern) {p : Place}
    (hbinds : BindsPattern p pattern) :
    let offered := (statementExports statement).map (·.name)
    let bound := (bindingsAt p).map (·.name)
    bound.Sublist offered ∧ offered.Perm (bound ++ defaultNames pattern) ∧
      (offered = bound ↔ defaultNames pattern = []) ∧
      (∀ path language lineCount tree, ∀ q ∈ tree.places, q.node = statement →
        isExportStatement statement = true →
          (statementExports statement).Sublist (gather path language lineCount tree).exports) ∧
      ∀ path language lineCount tree, p ∈ readPlaces (Place.ofRoot tree) →
        (bindingsAt p).Sublist (gather path language lineCount tree).bindings := by
  intro offered bound
  have hoffered : offered = offeredNames pattern := by
    simp [offered, statementExports_of_exportsPattern hexports, Function.comp_def]
  have hbound : bound = boundNames pattern := by
    simp [bound, bindingsAt_of_bindsPattern hbinds, Function.comp_def]
  rw [hoffered, hbound]
  refine ⟨boundNames_sublist pattern htargets, offeredNames_perm pattern htargets,
    offeredNames_eq_boundNames_iff htargets, ?_, ?_⟩
  · rintro path language lineCount tree q hq rfl hstatement
    exact statementExports_sublist hq hstatement
  · intro path language lineCount tree hp
    rw [gather_bindings]
    exact sublist_flatMap_of_mem bindingsAt hp

/-! ## Sample patterns -/

def patternDeclarator (pattern : Node) : Node :=
  declaratorNode pattern (part "identifier" "value" "o" 0 [])

def exportedConst (pattern : Node) : Node :=
  exportNode (constNode "declaration" (patternDeclarator pattern))

def localTree (pattern : Node) : Node := programNode (constNode "" (patternDeclarator pattern))

lemma exportsPattern_exportedConst (pattern : Node) (hname : pattern.field = "name") :
    ExportsPattern (exportedConst pattern) pattern := by
  refine ⟨constNode "declaration" (patternDeclarator pattern), patternDeclarator pattern,
    ⟨rfl, rfl, rfl, rfl, rfl⟩, rfl, rfl, ?_⟩
  simp [patternDeclarator, declaratorNode, Node.field?, part, hname]

def constPlace (pattern : Node) : Place :=
  ⟨patternDeclarator pattern, [{ sign "const" 0 with field := "kind" }],
    [(constNode "" (patternDeclarator pattern), []), (localTree pattern, [])]⟩

/-- An object pattern of a name, a pair whose value is an array pattern with a rest, and a name with
a default. -/
def nestedPattern : Node :=
  part "object_pattern" "name" "\x7b a, b: [c, ...d], e = 1 \x7d" 0
    [sign "\x7b" 0, part "shorthand_property_identifier_pattern" "" "a" 0 [], sign "," 0,
      part "pair_pattern" "" "b: [c, ...d]" 0
        [part "property_identifier" "key" "b" 0 [], sign ":" 0,
          part "array_pattern" "value" "[c, ...d]" 0
            [sign "[" 0, part "identifier" "" "c" 0 [], sign "," 0,
              part "rest_pattern" "" "...d" 0 [sign "..." 0, part "identifier" "" "d" 0 []],
              sign "]" 0]],
      sign "," 0,
      part "object_assignment_pattern" "" "e = 1" 0
        [part "shorthand_property_identifier_pattern" "left" "e" 0 [], sign "=" 0,
          part "number" "right" "1" 0 []],
      sign "\x7d" 0]

theorem pattern_names_offered_nested :
    TargetsNamed nestedPattern ∧ ExportsPattern (exportedConst nestedPattern) nestedPattern ∧
      BindsPattern (constPlace nestedPattern) nestedPattern ∧
      (statementExports (exportedConst nestedPattern)).map (·.name) =
        (bindingsAt (constPlace nestedPattern)).map (·.name) ∧
      (bindingsAt (constPlace nestedPattern)).map (·.name) = ["a", "c", "d", "e"] := by
  have htargets : TargetsNamed nestedPattern := by decide +kernel
  have hexports := exportsPattern_exportedConst nestedPattern rfl
  have hbinds : BindsPattern (constPlace nestedPattern) nestedPattern :=
    ⟨by decide, rfl, fun hlabel => absurd hlabel (by decide), by decide⟩
  have hagree := (pattern_names_offered htargets hexports hbinds).2.2.1
  exact ⟨htargets, hexports, hbinds, hagree.mpr (by decide +kernel), by decide +kernel⟩

def defaultedPattern : Node :=
  part "object_pattern" "name" "\x7b a = b \x7d" 0
    [sign "\x7b" 0,
      part "object_assignment_pattern" "" "a = b" 0
        [part "shorthand_property_identifier_pattern" "left" "a" 0 [], sign "=" 0,
          part "identifier" "right" "b" 0 []],
      sign "\x7d" 0]

/-- The name `b` occurs in the value of a default only, and is exported. -/
theorem default_value_exported :
    let tree := programNode (exportedConst defaultedPattern)
    let unexported := localTree defaultedPattern
    tree.hasError = false ∧ ∀ path language lineCount,
      (∃ e ∈ (gather path language lineCount tree).exports, e.name = "b") ∧
        (gather path language lineCount unexported).bindings.map (·.name) = ["a"] := by
  intro tree unexported
  have hexported : ∃ e ∈ exportsByPlace tree, e.name = "b" := by decide +kernel
  have hbindings :
      (harvest Scope.outer (Place.ofRoot unexported)).bindings.map (·.name) = ["a"] := by
    decide +kernel
  obtain ⟨e, he, hname⟩ := hexported
  exact ⟨by decide +kernel, fun _ _ _ => ⟨⟨e, mem_exports.mpr he, hname⟩, hbindings⟩⟩

end ScriptSurvey.Extraction
