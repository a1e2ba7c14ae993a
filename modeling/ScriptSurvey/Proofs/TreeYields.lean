import ScriptSurvey.Proofs.OutlineYields

/-!
# Harvests are yields

The harvest of a tree is what its places yield (`harvest_eq_yieldOf`). What is left are variables,
each outlined together with the function or class that it holds, calls, and the places that add
nothing but a token.
-/
namespace ScriptSurvey.Extraction

open Syntax (Node Place Kind)

/-! ## Variables -/

section

variable {p : Place}

lemma callableAt?_of_declarator (hkind : p.kind = .variableDeclarator) :
    callableAt? p = if namesValue p && holdsFunction p && isTopLevel p then
      some ⟨memberName p, .function, none, p.line, (p.parent?.map isExportChild).getD false,
        (p.parent?.map fun d => isDocumented (exportWrapper d)).getD false⟩ else none := by
  have hdeclared : isDeclaredFunction p = false :=
    isDeclaredFunction_of_not_isFunction (by rw [hkind]; rfl)
  rw [callableAt?, methodAt?_of_kind_ne (by simp [hkind]) (by simp [hkind]), functionAt?,
    hdeclared, Option.or_none]
  rfl

lemma contribute_of_declarator (hkind : p.kind = .variableDeclarator) (h : Harvest) :
    contribute p h = Harvest.token p.node.flowToken? { h with
      declarations := (callableAt? p).toList ++ h.declarations
      bindings := bindingsAt p ++ h.bindings } := by
  have hclass : isNamedClass p = false := isNamedClass_of_kind_ne (by simp [hkind])
  have hmethod : methodAt? p = none := methodAt?_of_kind_ne (by simp [hkind]) (by simp [hkind])
  have hproperty : propertyAt? p = none := propertyAt?_of_kind_ne (by simp [hkind])
  have hcall : callAt? p = none := callAt?_eq_none (by simp [calledNode?, hkind])
  have hmeasured : isMeasured p = false := isMeasured_of_not_isFunction (by rw [hkind]; rfl)
  simp only [contribute, declarationAt?, classAt?_eq_none hclass, hclass, hmethod, hproperty,
    hcall, hmeasured, Option.or_none]
  rfl

lemma readChildren_of_declarator {name : Node} (hkind : p.kind = .variableDeclarator)
    (hname : p.node.field? "name" = some name) : readChildren p = (p.field? "value").toList := by
  simp [readChildren, hkind, hname]

lemma plain_follows {name : Node} {names : List String} (hkind : p.kind = .variableDeclarator)
    (hname : p.node.field? "name" = some name) (hcallable : callableAt? p = none)
    (halone : ∀ r, p.field? "value" = some r → Alone r)
    (hnames : bindingsAt p = if (p.parent?.map isExportChild).getD false then []
      else names.map (⟨·, p.line⟩)) :
    (⟨(Inner.field? p "value").toList.map (scopeOf p, ·),
      if (p.parent?.map isExportChild).getD false then id else Harvest.binding names p.line⟩ :
        Outline p).Follows := by
  refine Outline.child_follows (readChildren_of_declarator hkind hname)
    (scopeInside_eq_scopeOf (isNamedClass_of_kind_ne (by simp [hkind])) hcallable) halone
    fun h => ?_
  rw [contribute_of_declarator hkind, hcallable, hnames]
  split_ifs <;> rfl

/-- What a variable of one name holds takes this name. -/
structure Bound (p v : Place) (n : Node) : Prop where
  kind : p.kind = .variableDeclarator
  name : p.node.field? "name" = some n
  label : n.label = "identifier"
  value : p.field? "value" = some v

namespace Bound

variable {v : Place} {n : Node}

lemma namesValue (h : Bound p v n) : Extraction.namesValue p = true := by
  simp [Extraction.namesValue, h.kind, h.name, h.label]

lemma mem_children (h : Bound p v n) : v ∈ p.children := mem_children_of_field? h.value

lemma readChildren (h : Bound p v n) : Extraction.readChildren p = [v] := by
  rw [readChildren_of_declarator h.kind h.name, h.value]
  rfl

lemma boundName? (h : Bound p v n) : Extraction.boundName? v = some n.text := by
  rw [boundName?_of_mem_children h.mem_children, h.namesValue, h.name]
  rfl

lemma memberName (h : Bound p v n) : Extraction.memberName p = n.text := by
  simp [Extraction.memberName, h.kind, h.name]

lemma expression (h : Bound p v n) (hvalued : isFunctionValue v = true) : Expression v := by
  refine expression_of_isFunctionValue hvalued ?_
  rw [isExportChild_of_mem_children h.mem_children, h.kind]
  rfl

lemma bindingsAt (h : Bound p v n)
    (hvalued : (isFunctionValue v || v.kind == .classDeclaration) = true) :
    Extraction.bindingsAt p = [] := by
  simp only [Extraction.bindingsAt, h.name, h.namesValue, h.value, Option.any_some, hvalued]
  split_ifs <;> rfl

lemma scopeOf (h : Bound p v n) : Extraction.scopeOf v =
    ⟨(Extraction.scopeOf p).enclosing,
      ((callableAt? p).map (·.key)).or (Extraction.scopeOf p).caller⟩ := by
  rw [scopeOf_of_mem_children h.mem_children, scopeInside,
    isNamedClass_of_kind_ne (by simp [h.kind])]
  rfl

/-- The function of a variable is declared when the variable stands at the top of the file. -/
lemma function_yields (h : Bound p v n) {w : Inner p} (hw : w.1 = v)
    (hvalued : isFunctionValue v = true) :
    (if isTopLevel p then
      (Outline.lift w (functionOutline { Extraction.scopeOf p with caller := some n.text } w.1
        (some n.text) none)).andThen
        (Harvest.declaring ⟨n.text, .function, none, p.line,
          (p.parent?.map isExportChild).getD false,
          (p.parent?.map fun d => isDocumented (exportWrapper d)).getD false⟩)
      else Outline.lift w (functionOutline (Extraction.scopeOf p) w.1 (some n.text) none)).Yields
        (Extraction.readChildren v) := by
  subst hw
  have hexpression := h.expression hvalued
  have hholds : holdsFunction p = true := by simp [holdsFunction, h.value, hvalued]
  have hcallable := callableAt?_of_declarator h.kind
  rw [h.namesValue, hholds, h.memberName] at hcallable
  have hname : functionName? w.1 = some n.text := by
    rw [hexpression.name, h.boundName?]
    rfl
  have howner : functionOwner? w.1 = none := by
    rw [hexpression.owner, fieldMethod?_of_mem_children h.mem_children, h.kind]
    rfl
  have hflow := flowToken?_of_isFunction hexpression.isFunction
  have hbindings := h.bindingsAt (by rw [hvalued]; rfl)
  -- further in, the function is read by the caller of the variable
  split_ifs with htop
  · rw [htop] at hcallable
    have hscope : { Extraction.scopeOf p with caller := some n.text } =
        Extraction.scopeOf w.1 := by
      rw [h.scopeOf, hcallable]
      rfl
    have hfollows := hexpression.follows hscope
    rw [hname, howner] at hfollows
    refine hfollows.lift h.readChildren hflow fun harvest => ?_
    rw [contribute_of_declarator h.kind, hcallable, hbindings]
    rfl
  · rw [Bool.not_eq_true] at htop
    rw [htop] at hcallable
    have hscope : Extraction.scopeOf p = Extraction.scopeOf w.1 := by
      rw [h.scopeOf, hcallable]
      rfl
    have hfollows := hexpression.follows hscope
    rw [hname, howner] at hfollows
    refine hfollows.lift (f := id) h.readChildren hflow fun harvest => ?_
    rw [contribute_of_declarator h.kind, hcallable, hbindings]
    rfl

lemma class_yields (h : Bound p v n) {w : Inner p} (hw : w.1 = v)
    (hclass : v.kind = .classDeclaration) :
    (Outline.lift w (classOutline (Extraction.scopeOf p) w.1 (some n.text))).Yields
      (Extraction.readChildren v) := by
  subst hw
  have hholds : holdsFunction p = false := by
    simp [holdsFunction, h.value, isFunctionValue, hclass]
  have hcallable := callableAt?_of_declarator h.kind
  rw [h.namesValue, hholds] at hcallable
  have hfollows := classOutline_follows hclass
  rw [h.boundName?, h.scopeOf, hcallable] at hfollows
  refine hfollows.lift (f := id) h.readChildren (flowToken?_of_class hclass)
    fun harvest => ?_
  rw [contribute_of_declarator h.kind, hcallable,
    h.bindingsAt (by rw [hclass]; exact Bool.or_true _)]
  rfl

end Bound

lemma alone_of_other {v : Place} (hfunction : isFunctionValue v = false)
    (hclass : v.kind ≠ .classDeclaration) : Alone v :=
  ⟨fun h => absurd h hclass, fun h => absurd h (by simp [hfunction])⟩

/-- A variable of one name that holds neither a function nor a class binds it. -/
lemma binding_follows {n : Node} (hkind : p.kind = .variableDeclarator)
    (hname : p.node.field? "name" = some n) (hlabel : n.label = "identifier")
    (hvalue : ∀ v, p.field? "value" = some v →
      isFunctionValue v = false ∧ v.kind ≠ .classDeclaration) :
    (⟨(Inner.field? p "value").toList.map (scopeOf p, ·),
      if (p.parent?.map isExportChild).getD false then id
      else Harvest.binding [n.text] p.line⟩ : Outline p).Follows := by
  have hnames : namesValue p = true := by simp [namesValue, hkind, hname, hlabel]
  have hholds : holdsFunction p = false := by
    cases hv : p.field? "value" with
    | none => simp [holdsFunction, hv]
    | some v => simp [holdsFunction, hv, (hvalue v hv).1]
  have hheld : ((p.field? "value").any fun v =>
      isFunctionValue v || v.kind == Kind.classDeclaration) = false := by
    cases hv : p.field? "value" with
    | none => rfl
    | some v => simp [(hvalue v hv).1, (hvalue v hv).2]
  have hcallable := callableAt?_of_declarator hkind
  rw [hholds, Bool.and_false, Bool.false_and] at hcallable
  refine plain_follows hkind hname hcallable
    (fun v hv => alone_of_other (hvalue v hv).1 (hvalue v hv).2) ?_
  simp only [bindingsAt, hname, hnames, hheld, hkind]
  cases (p.parent?.map isExportChild).getD false <;> rfl

lemma pattern_follows {n : Node} (hkind : p.kind = .variableDeclarator)
    (hname : p.node.field? "name" = some n) (hlabel : n.label ≠ "identifier") :
    (⟨(Inner.field? p "value").toList.map (scopeOf p, ·),
      if (p.parent?.map isExportChild).getD false then id
      else Harvest.binding (boundNames n) p.line⟩ : Outline p).Follows := by
  have hnames : namesValue p = false := by simp [namesValue, hkind, hname, hlabel]
  have hcallable := callableAt?_of_declarator hkind
  rw [hnames, Bool.false_and, Bool.false_and] at hcallable
  refine plain_follows hkind hname hcallable (fun v hv =>
    alone_of_mem_children hnames (by simp [hkind]) (mem_children_of_field? hv)) ?_
  simp only [bindingsAt, hname, hnames, hkind]
  cases (p.parent?.map isExportChild).getD false <;> rfl

/-- A variable is read together with the function or class that it holds. -/
lemma declaratorOutline_yields (hkind : p.kind = .variableDeclarator) :
    ∃ places, (declaratorOutline (scopeOf p) p).Yields places := by
  rw [declaratorOutline]
  cases hname : p.node.field? "name" with
  | none =>
    have hnames : namesValue p = false := by simp [namesValue, hkind, hname]
    have hcallable := callableAt?_of_declarator hkind
    rw [hnames, Bool.false_and, Bool.false_and] at hcallable
    refine ⟨_, (Outline.passing_follows (f := id) (by simp [readChildren, hkind, hname])
      (isNamedClass_of_kind_ne (by simp [hkind])) hcallable hnames fun h => ?_).yields⟩
    have hbindings : bindingsAt p = [] := by simp [bindingsAt, hname]
    rw [contribute_of_declarator hkind, hcallable, hbindings]
    rfl
  | some n =>
    dsimp only
    by_cases hlabel : n.label = "identifier"
    · rw [if_pos (beq_iff_eq.mpr hlabel)]
      cases hv : Inner.field? p "value" with
      | none =>
        have hfollows := binding_follows hkind hname hlabel
          (by simp [Inner.place_field?_of_eq_none hv])
        rw [hv] at hfollows
        exact ⟨_, hfollows.yields⟩
      | some v =>
        have hbound : Bound p v.1 n := ⟨hkind, hname, hlabel, Inner.place_field?_of_eq_some hv⟩
        dsimp only
        by_cases hfunction : isFunctionValue v.1 = true
        · rw [if_pos hfunction]
          exact ⟨_, hbound.function_yields rfl hfunction⟩
        · rw [if_neg hfunction]
          by_cases hclass : v.1.kind = .classDeclaration
          · rw [if_pos (beq_iff_eq.mpr hclass)]
            exact ⟨_, hbound.class_yields rfl hclass⟩
          · have hfollows := binding_follows hkind hname hlabel fun w hw => by
              rw [← Option.some.inj (hbound.value.symm.trans hw)]
              exact ⟨by simpa using hfunction, hclass⟩
            rw [hv] at hfollows
            rw [if_neg (by simpa using hclass)]
            exact ⟨_, hfollows.yields⟩
    · rw [if_neg (by simpa using hlabel)]
      exact ⟨_, (pattern_follows hkind hname hlabel).yields⟩

end

/-! ## Calls and everything else -/

section

variable {p : Place}

def isOutlined (kind : Kind) : Bool :=
  kind.isFunction || kind == .classDeclaration || kind == .fieldDefinition ||
    kind == .variableDeclarator

lemma readChildren_of_not_isOutlined (h : isOutlined p.kind = false) :
    readChildren p = p.children := by
  unfold readChildren
  cases hkind : p.kind <;> simp_all [isOutlined, Kind.isFunction]

lemma passes_of_not_isOutlined (h : isOutlined p.kind = false) :
    isNamedClass p = false ∧ namesValue p = false ∧ callableAt? p = none := by
  simp only [isOutlined, Bool.or_eq_false_iff, beq_eq_false_iff_ne] at h
  obtain ⟨⟨⟨hfunction, hclass⟩, hfield⟩, hvariable⟩ := h
  have hmethod : p.kind ≠ .methodDefinition := fun hkind => by
    rw [hkind] at hfunction
    cases hfunction
  refine ⟨isNamedClass_of_kind_ne hclass, namesValue_of_kind_ne hvariable, ?_⟩
  rw [callableAt?, functionAt?_of_kind_ne hfunction hvariable, methodAt?_of_kind_ne hmethod hfield]
  rfl

/-- A place of any other kind contributes its token and its call. -/
lemma contribute_of_not_isOutlined (h : isOutlined p.kind = false) (inner : Harvest) :
    contribute p inner = Harvest.token p.node.flowToken?
      (match callAt? p with | some c => Harvest.calling c inner | none => inner) := by
  obtain ⟨hclass, -, hcallable⟩ := passes_of_not_isOutlined h
  simp only [isOutlined, Bool.or_eq_false_iff, beq_eq_false_iff_ne] at h
  simp only [contribute, declarationAt?, hcallable, (Option.or_eq_none_iff.mp hcallable).2,
    classAt?_eq_none hclass, hclass, bindingsAt_of_kind_ne h.2, propertyAt?_of_kind_ne h.1.2,
    isMeasured_of_not_isFunction h.1.1.1]
  cases callAt? p <;> rfl

lemma callOutline_follows (h : isOutlined p.kind = false) :
    (callOutline (scopeOf p) p (calledNode? p)).Follows := by
  obtain ⟨hclass, hnames, hcallable⟩ := passes_of_not_isOutlined h
  have hread := readChildren_of_not_isOutlined h
  have hcall : callAt? p = (calledNode? p).bind (callSite? (scopeOf p) · p.line) := rfl
  rw [callOutline]
  split
  case h_1 c hsite =>
    refine Outline.passing_follows hread hclass hcallable hnames fun inner => ?_
    rw [contribute_of_not_isOutlined h, hcall, hsite]
  case h_2 hsite =>
    refine Outline.passing_follows (f := id) hread hclass hcallable hnames fun inner => ?_
    rw [contribute_of_not_isOutlined h, hcall, hsite]
    rfl

end

/-! ## The tree -/

section

variable {p : Place}

/-- Every outline makes the yield of its place. -/
theorem outline_yields (h : Alone p) : ∃ places, (outline (scopeOf p) p).Yields places := by
  unfold outline
  split
  case h_1 hkind =>
    exact ⟨_, (declaredFunction_follows (by rw [hkind]; rfl)
      (by simp [isDeclaredFunction, hkind])).yields⟩
  case h_2 hkind | h_3 hkind =>
    have hvalue : isFunctionValue p = true := by simp [isFunctionValue, hkind]
    by_cases hexported : isExportChild p = true
    · rw [if_pos hexported]
      exact ⟨_, (declaredFunction_follows (isFunction_of_isFunctionValue hvalue)
        (by simp [isDeclaredFunction, hvalue, hexported])).yields⟩
    · rw [if_neg hexported]
      exact ⟨_, (functionExpression_follows hvalue (by simpa using hexported) h).yields⟩
  case h_4 hkind => exact ⟨_, (methodOutline_follows hkind).yields⟩
  case h_5 hkind =>
    rw [← h.unbound hkind]
    exact ⟨_, (classOutline_follows hkind).yields⟩
  case h_6 hkind => exact fieldOutline_yields hkind
  case h_7 hkind => exact declaratorOutline_yields hkind
  case h_8 hkind | h_9 hkind =>
    have hfollows := callOutline_follows (p := p) (by rw [hkind]; rfl)
    rw [calledNode?, hkind] at hfollows
    exact ⟨_, hfollows.yields⟩
  case h_10 =>
    have hother : isOutlined p.kind = false := by
      unfold isOutlined
      cases hkind : p.kind <;> simp_all [Kind.isFunction]
    have hnone : calledNode? p = none := by
      unfold calledNode?
      cases hkind : p.kind <;> simp_all
    have hfollows := callOutline_follows hother
    rw [hnone] at hfollows
    exact ⟨_, hfollows.yields⟩

/-- By induction on the size of the node: the harvest of a place in its scope is its yield. -/
theorem harvest_eq_yieldOf (h : Alone p) : harvest (scopeOf p) p = yieldOf p := by
  induction hsize : sizeOf p.node using Nat.strongRecOn generalizing p with
  | _ size ih =>
    obtain ⟨places, hyields⟩ := outline_yields h
    have hinside : (outline (scopeOf p) p).reading.map (fun x => harvest x.1 x.2) =
        places.map yieldOf := by
      rw [hyields.reading, List.map_map]
      refine List.map_congr_left fun r hr => ?_
      have hmem : (scopeOf r, r) ∈ (outline (scopeOf p) p).reading := by
        rw [hyields.reading]
        exact List.mem_map_of_mem hr
      exact ih _ (hsize ▸ sizeOf_of_mem_reading hmem) (hyields.alone r hr) rfl
    rw [Outline.reading, List.map_map] at hinside
    rw [harvest, ← hyields.finish, ← hinside]
    rfl

end

/-- The harvest of a tree is what its places yield. -/
theorem harvest_tree (tree : Node) :
    harvest Scope.outer (Place.ofRoot tree) = yieldOf (Place.ofRoot tree) :=
  harvest_eq_yieldOf (alone_ofRoot tree)

end ScriptSurvey.Extraction
