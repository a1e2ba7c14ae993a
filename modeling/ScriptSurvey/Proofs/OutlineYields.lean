import ScriptSurvey.Proofs.CallReading
import ScriptSurvey.Proofs.PlaceYields

/-!
# What outlines yield

`Outline.Follows` ties the outline of one place to what the place contributes, with one lemma for
each kind of place. A field or variable that holds a function or class is outlined together with it
(`Outline.Follows.lift`).
-/
namespace ScriptSurvey.Extraction

open Syntax (Node Place Kind)

lemma Harvest.append_empty (h : Harvest) : h ++ Harvest.empty = h := by
  change Harvest.append h Harvest.empty = h
  simp [Harvest.append, Harvest.empty]

lemma Harvest.concat_singleton (h : Harvest) : Harvest.concat [h] = h := h.append_empty

/-- The place is outlined by itself, and not together with the field or variable that holds it. -/
structure Alone (p : Place) : Prop where
  unbound : p.kind = .classDeclaration → boundName? p = none
  unheld : isFunctionValue p = true → boundName? p = none ∧ fieldMethod? p = none

lemma alone_ofRoot (tree : Node) : Alone (Place.ofRoot tree) :=
  ⟨fun _ => rfl, fun _ => ⟨rfl, rfl⟩⟩

/-! ## Going down -/

section

variable {p r : Place}

lemma boundName?_of_mem_children (h : r ∈ p.children) :
    boundName? r = if namesValue p then (p.node.field? "name").map (·.text) else none := by
  rw [boundName?, parent?_of_mem_children h]
  cases hnames : namesValue p <;> simp [Option.filter, hnames]

lemma fieldMethod?_of_mem_children (h : r ∈ p.children) :
    fieldMethod? r = if p.kind == .fieldDefinition then methodAt? p else none := by
  rw [fieldMethod?, parent?_of_mem_children h]
  cases hfield : p.kind == .fieldDefinition <;> simp [Option.filter, hfield]

lemma isExportChild_of_mem_children (h : r ∈ p.children) :
    isExportChild r = (p.kind == .exportStatement) := by
  rw [isExportChild, Place.parentKind?, parent?_of_mem_children h]
  rfl

lemma alone_of_mem_children (hnames : namesValue p = false)
    (hfield : p.kind = .fieldDefinition → methodAt? p = none) (h : r ∈ p.children) : Alone r := by
  have hbound : boundName? r = none := by
    rw [boundName?_of_mem_children h, hnames]
    rfl
  refine ⟨fun _ => hbound, fun _ => ⟨hbound, ?_⟩⟩
  rw [fieldMethod?_of_mem_children h]
  split_ifs with hkind
  · exact hfield (beq_iff_eq.mp hkind)
  · rfl

lemma classAround?_of_mem_children (h : r ∈ p.children) :
    classAround? r = if isNamedClass p then some p else classAround? p :=
  around_of_mem_children h

def scopeInside (p : Place) : Scope where
  enclosing := if isNamedClass p then some (enclosingOf p) else (scopeOf p).enclosing
  caller := ((callableAt? p).map (·.key)).or (scopeOf p).caller

lemma scopeOf_of_mem_children (h : r ∈ p.children) : scopeOf r = scopeInside p := by
  rw [scopeOf, scopeInside, classAround?_of_mem_children h, callerAt?,
    enclosingPlaces_of_mem_children h, List.findSome?_cons]
  congr 1
  · split_ifs <;> rfl
  · cases callableAt? p <;> rfl

lemma scopeInside_eq_scopeOf (hclass : isNamedClass p = false) (hcallable : callableAt? p = none) :
    scopeInside p = scopeOf p := by
  rw [scopeInside, hclass, hcallable]
  rfl

end

/-! ## What places of other kinds do not contribute -/

section

variable {p : Place}

lemma classAt?_eq_none (h : isNamedClass p = false) : classAt? p = none := by
  rw [classAt?, h]
  rfl

lemma callAt?_eq_none (h : calledNode? p = none) : callAt? p = none := by
  rw [callAt?, ownCall?, h, Option.bind_none]

lemma bindingsAt_of_kind_ne (h : p.kind ≠ .variableDeclarator) : bindingsAt p = [] := by
  simp [bindingsAt, h]

lemma propertyAt?_of_kind_ne (h : p.kind ≠ .fieldDefinition) : propertyAt? p = none := by
  simp [propertyAt?, isPropertySite, h]

lemma methodAt?_of_not_site (h : isMethodSite p = false) : methodAt? p = none := by
  rw [methodAt?, h]
  rfl

lemma methodAt?_of_kind_ne (hmethod : p.kind ≠ .methodDefinition)
    (hfield : p.kind ≠ .fieldDefinition) : methodAt? p = none :=
  methodAt?_of_not_site (by simp [isMethodSite, hmethod, hfield])

lemma functionAt?_eq_none (hdeclared : isDeclaredFunction p = false)
    (hnames : namesValue p = false) : functionAt? p = none := by
  rw [functionAt?, hdeclared, hnames]
  rfl

lemma flowToken?_of_isFunction (h : p.kind.isFunction = true) : p.node.flowToken? = none := by
  change p.node.kind.isFunction = true at h
  unfold Node.flowToken?
  cases hkind : p.node.kind <;> simp_all [Kind.isFunction]

lemma kind_ne_of_isFunction {kind : Kind} (h : p.kind.isFunction = true)
    (hkind : kind.isFunction = false) : p.kind ≠ kind := by
  rintro rfl
  rw [hkind] at h
  cases h

lemma isDeclaredFunction_of_not_isFunction (h : p.kind.isFunction = false) :
    isDeclaredFunction p = false := by
  unfold isDeclaredFunction isFunctionValue
  cases hkind : p.kind <;> simp_all [Kind.isFunction]

lemma functionAt?_of_kind_ne (hfunction : p.kind.isFunction = false)
    (hvariable : p.kind ≠ .variableDeclarator) : functionAt? p = none :=
  functionAt?_eq_none (isDeclaredFunction_of_not_isFunction hfunction)
    (namesValue_of_kind_ne hvariable)

lemma isMeasured_of_not_isFunction (h : p.kind.isFunction = false) : isMeasured p = false := by
  rw [isMeasured, h]
  rfl

end

/-! ## Outlines -/

namespace Outline

/-- The outline reads what `readChildren` lists, each place in its scope, and makes of their yields
what the place contributes to them. -/
structure Follows {p : Place} (o : Outline p) : Prop where
  reading : o.reading = (readChildren p).map fun r => (scopeOf r, r)
  alone : ∀ r ∈ readChildren p, Alone r
  finish : ∀ h, Harvest.token p.node.flowToken? (o.finish h) = contribute p h

/-- The outline reads these places, each in its scope, and makes of their yields that of the
place. -/
structure Yields {p : Place} (o : Outline p) (places : List Place) : Prop where
  reading : o.reading = places.map fun r => (scopeOf r, r)
  alone : ∀ r ∈ places, Alone r
  finish : Harvest.token p.node.flowToken? (o.finish (Harvest.concat (places.map yieldOf))) =
    yieldOf p

variable {p : Place} {o : Outline p}

lemma Follows.yields (h : o.Follows) : o.Yields (readChildren p) :=
  ⟨h.reading, h.alone, by rw [h.finish, yieldOf_eq]⟩

/-- A place that holds a function or class is outlined together with it. -/
lemma Follows.lift {v : Inner p} {o : Outline v.1} (h : o.Follows) {f : Harvest → Harvest}
    (hread : readChildren p = [v.1]) (hflow : v.1.node.flowToken? = none)
    (hf : ∀ h, Harvest.token p.node.flowToken? (f h) = contribute p h) :
    ((Outline.lift v o).andThen f).Yields (readChildren v.1) where
  reading := (reading_lift v o).trans h.reading
  alone := h.alone
  finish := by
    have hvalue : o.finish (Harvest.concat ((readChildren v.1).map yieldOf)) = yieldOf v.1 := by
      rw [yieldOf_eq v.1, ← h.finish, hflow]
      rfl
    -- a function or class adds no token of its own, so closing it makes its whole yield
    change Harvest.token _ (f (o.finish _)) = _
    rw [hvalue, hf, yieldOf_eq p, hread, List.map_singleton, Harvest.concat_singleton]

/-- A place without a declaration of its own passes its scope on. -/
lemma passing_follows {f : Harvest → Harvest} (hread : readChildren p = p.children)
    (hclass : isNamedClass p = false) (hcallable : callableAt? p = none)
    (hnames : namesValue p = false)
    (hf : ∀ h, Harvest.token p.node.flowToken? (f h) = contribute p h) :
    ((passing (scopeOf p) p).andThen f).Follows where
  reading := by
    change (passing (scopeOf p) p).reading = _
    rw [reading_passing, hread]
    refine List.map_congr_left fun r hr => ?_
    rw [scopeOf_of_mem_children hr, scopeInside_eq_scopeOf hclass hcallable]
  alone := by
    rw [hread]
    exact fun r hr => alone_of_mem_children hnames
      (fun _ => (Option.or_eq_none_iff.mp hcallable).2) hr
  finish := hf

lemma child_follows {name : String} {scope : Scope} {f : Harvest → Harvest}
    (hread : readChildren p = (p.field? name).toList) (hscope : scopeInside p = scope)
    (halone : ∀ r, p.field? name = some r → Alone r)
    (hfinish : ∀ h, Harvest.token p.node.flowToken? (f h) = contribute p h) :
    (⟨(Inner.field? p name).toList.map (scope, ·), f⟩ : Outline p).Follows where
  reading := by
    have hinside : (readChildren p).map (fun r => (scopeOf r, r)) =
        (readChildren p).map (scope, ·) := by
      refine List.map_congr_left fun r hr => ?_
      rw [scopeOf_of_mem_children (mem_children_of_mem_readChildren hr), hscope]
    rw [hinside, hread, reading_child]
  alone := by
    rw [hread]
    exact fun r hr => halone r (Option.mem_toList.mp hr)
  finish := hfinish

end Outline

/-! ## Functions -/

section

variable {p : Place}

lemma finish_functionOutline (scope : Scope) (p : Place) (name owner : Option String) :
    (functionOutline scope p name owner).finish =
      if hasBlock p then measured p name owner else id := rfl

/-- A function closes what is measured and may be a declaration or a method. -/
lemma contribute_of_isFunction (hfunction : p.kind.isFunction = true) (h : Harvest) :
    contribute p h =
      let inner := if hasBlock p then measured p (functionName? p) (functionOwner? p) h else h
      { inner with
        declarations := (callableAt? p).toList ++ inner.declarations
        methods := ((methodAt? p).map fun d => (d.name, d.line)).toList ++ inner.methods } := by
  have hclass : isNamedClass p = false :=
    isNamedClass_of_kind_ne (kind_ne_of_isFunction hfunction rfl)
  have hbindings := bindingsAt_of_kind_ne (kind_ne_of_isFunction hfunction rfl)
  have hproperty := propertyAt?_of_kind_ne (kind_ne_of_isFunction hfunction rfl)
  have hcall := callAt?_eq_none (calledNode?_of_isFunction hfunction)
  simp only [contribute, declarationAt?, classAt?_eq_none hclass, hclass, hbindings, hproperty,
    hcall, flowToken?_of_isFunction hfunction, isMeasured, hfunction, Option.or_none]
  cases hasBlock p <;> rfl

lemma follows_of_functionOutline {scope : Scope} {name owner : Option String}
    {f : Harvest → Harvest} (hfunction : p.kind.isFunction = true) (hscope : scope = scopeInside p)
    (hfinish : ∀ h, f (if hasBlock p then measured p name owner h else h) = contribute p h) :
    ((functionOutline scope p name owner).andThen f).Follows where
  reading := by
    change (functionOutline scope p name owner).reading = _
    rw [reading_functionOutline, readChildren_of_isFunction hfunction, hscope]
    refine List.map_congr_left fun r hr => ?_
    rw [scopeOf_of_mem_children (mem_children_of_mem_functionParts hr)]
  alone := by
    rw [readChildren_of_isFunction hfunction]
    exact fun r hr => alone_of_mem_children
      (namesValue_of_kind_ne (kind_ne_of_isFunction hfunction rfl))
      (fun hfield => absurd hfield (kind_ne_of_isFunction hfunction rfl))
      (mem_children_of_mem_functionParts hr)
  finish h := by
    rw [flowToken?_of_isFunction hfunction, ← hfinish]
    change Harvest.token none (f ((functionOutline scope p name owner).finish h)) = _
    rw [finish_functionOutline]
    split_ifs <;> rfl

lemma functionOutline_follows (hfunction : p.kind.isFunction = true)
    (hcallable : callableAt? p = none) {scope : Scope} (hscope : scope = scopeInside p) :
    (functionOutline scope p (functionName? p) (functionOwner? p)).Follows := by
  refine follows_of_functionOutline (f := id) hfunction hscope fun h => ?_
  rw [contribute_of_isFunction hfunction, hcallable, (Option.or_eq_none_iff.mp hcallable).2]
  rfl

lemma declaredFunction_follows (hfunction : p.kind.isFunction = true)
    (hdeclared : isDeclaredFunction p = true) : (declaredFunction (scopeOf p) p).Follows := by
  have hmethod : methodAt? p = none := by
    refine methodAt?_of_kind_ne ?_ (kind_ne_of_isFunction hfunction rfl)
    intro hkind
    simp [isDeclaredFunction, isFunctionValue, hkind] at hdeclared
  have hcallable : callableAt? p = some ⟨declaredName p, .function, none, p.line, isExportChild p,
      isDocumented (exportWrapper p)⟩ := by
    rw [callableAt?, functionAt?, if_pos hdeclared]
    rfl
  refine follows_of_functionOutline hfunction ?_ fun h => ?_
  · rw [scopeInside, hcallable, isNamedClass_of_kind_ne (kind_ne_of_isFunction hfunction rfl)]
    rfl
  · rw [contribute_of_isFunction hfunction, hcallable, hmethod, functionName?, functionOwner?,
      if_pos hdeclared, if_pos hdeclared]
    split_ifs <;> rfl

/-- A function expression that is not exported is declared by what holds it, if at all. -/
structure Expression (p : Place) : Prop where
  isFunction : p.kind.isFunction = true
  callable : callableAt? p = none
  name : functionName? p =
    ((boundName? p).or ((fieldMethod? p).map (·.name))).or ((p.node.field? "name").map (·.text))
  owner : functionOwner? p = (fieldMethod? p).bind (·.owner)

lemma expression_of_isFunctionValue (hvalue : isFunctionValue p = true)
    (hexported : isExportChild p = false) : Expression p := by
  have hfunction := isFunction_of_isFunctionValue hvalue
  have hkinds : p.kind ≠ .functionDeclaration ∧ p.kind ≠ .methodDefinition := by
    constructor <;> intro hkind <;> simp [isFunctionValue, hkind] at hvalue
  have hdeclared : isDeclaredFunction p = false := by
    simp [isDeclaredFunction, hexported, hkinds.1]
  refine ⟨hfunction, ?_, by simp [functionName?, hdeclared, hkinds.2],
    by simp [functionOwner?, hdeclared, hkinds.2]⟩
  rw [callableAt?, functionAt?_eq_none hdeclared (namesValue_of_kind_ne
    (kind_ne_of_isFunction hfunction rfl)), methodAt?_of_kind_ne hkinds.2
    (kind_ne_of_isFunction hfunction rfl)]
  rfl

lemma Expression.follows (h : Expression p) {scope : Scope} (hscope : scope = scopeOf p) :
    (functionOutline scope p (functionName? p) (functionOwner? p)).Follows := by
  refine functionOutline_follows h.isFunction h.callable (hscope.trans ?_)
  rw [scopeInside_eq_scopeOf (isNamedClass_of_kind_ne (kind_ne_of_isFunction h.isFunction rfl))
    h.callable]

lemma functionExpression_follows (hvalue : isFunctionValue p = true)
    (hexported : isExportChild p = false) (halone : Alone p) :
    (functionOutline (scopeOf p) p ((p.node.field? "name").map (·.text)) none).Follows := by
  have hexpression := expression_of_isFunctionValue hvalue hexported
  obtain ⟨hbound, hfield⟩ := halone.unheld hvalue
  have hname := hexpression.name
  have howner := hexpression.owner
  rw [hbound, hfield] at hname
  rw [hfield] at howner
  rw [← show functionName? p = (p.node.field? "name").map (·.text) from hname,
    ← show functionOwner? p = none from howner]
  exact hexpression.follows rfl

lemma methodOutline_follows (hkind : p.kind = .methodDefinition) :
    (methodOutline (scopeOf p) p).Follows := by
  have hfunction : p.kind.isFunction = true := by rw [hkind]; rfl
  have hclass : isNamedClass p = false := isNamedClass_of_kind_ne (by simp [hkind])
  have hdeclared : isDeclaredFunction p = false := by
    simp [isDeclaredFunction, isFunctionValue, hkind]
  have hfunctionAt : functionAt? p = none :=
    functionAt?_eq_none hdeclared (namesValue_of_kind_ne (by simp [hkind]))
  have hcallable : callableAt? p = methodAt? p := by rw [callableAt?, hfunctionAt]; rfl
  have hname : functionName? p = some (memberName p) := by
    simp [functionName?, hdeclared, hkind]
  have howner : functionOwner? p = (methodAt? p).bind (·.owner) := by
    simp [functionOwner?, hdeclared, hkind]
  have hmember : memberName p = ((p.node.field? "name").map (·.text)).getD "" := by
    simp [memberName, hkind]
  have hplain (hnone : methodAt? p = none) :
      (functionOutline (scopeOf p) p (some (memberName p)) none).Follows := by
    rw [hnone] at hcallable howner
    rw [← hname, ← show functionOwner? p = none from howner]
    exact functionOutline_follows hfunction hcallable
      (scopeInside_eq_scopeOf hclass hcallable).symm
  rw [methodOutline, ← hmember]
  cases hc : classAround? p with
  | none =>
    have hnone : methodAt? p = none := by simp [methodAt?, hc]
    simpa [scopeOf, hc] using hplain hnone
  | some c =>
    have hscope : scopeOf p = ⟨some (enclosingOf c), callerAt? p⟩ := by rw [scopeOf, hc]; rfl
    simp only [hscope]
    split_ifs with hbody
    · have hmethod : methodAt? p = some ⟨memberName p, .method, some (className c), p.line,
          isExportChild c, isDocumented p⟩ := by
        simp [methodAt?, isMethodSite, hkind, hbody, hc]
      refine follows_of_functionOutline hfunction ?_ fun h => ?_
      · rw [scopeInside, hcallable, hmethod, hclass, hscope]
        rfl
      · rw [contribute_of_isFunction hfunction, hcallable, howner, hname, hmethod]
        split_ifs <;> rfl
    · have hnone : methodAt? p = none :=
        methodAt?_of_not_site (by simpa [isMethodSite, hkind] using hbody)
      rw [← hscope]
      exact hplain hnone

end

/-! ## Classes -/

section

variable {p : Place}

lemma isSome_boundName? (p : Place) : (boundName? p).isSome = isBound p := by
  rw [boundName?, isBound]
  cases p.parent? with
  | none => rfl
  | some q =>
    cases hnames : namesValue q with
    | false => simp [Option.filter, hnames]
    | true =>
      have hidentifier := hnames
      rw [namesValue, Bool.and_eq_true, Option.any_eq_true] at hidentifier
      obtain ⟨-, name, hname, -⟩ := hidentifier
      simp [Option.filter, hnames, hname]

lemma flowToken?_of_class (h : p.kind = .classDeclaration) : p.node.flowToken? = none := by
  change p.node.kind = .classDeclaration at h
  simp [Node.flowToken?, h]

lemma callableAt?_of_class (hkind : p.kind = .classDeclaration) :
    callableAt? p = none := by
  rw [callableAt?, functionAt?_of_kind_ne (by rw [hkind]; rfl) (by simp [hkind]),
    methodAt?_of_kind_ne (by simp [hkind]) (by simp [hkind])]
  rfl

lemma contribute_of_class (hkind : p.kind = .classDeclaration) (h : Harvest) :
    contribute p h = Harvest.token p.node.flowToken? (if isNamedClass p then
      Harvest.declaring ⟨className p, .classDef, none, p.line, isExportChild p,
        isDocumented (exportWrapper p)⟩
        (Harvest.inClass (className p) p.line (classParent? p.node) h) else h) := by
  have hmethod : methodAt? p = none := methodAt?_of_kind_ne (by simp [hkind]) (by simp [hkind])
  have hbindings : bindingsAt p = [] := bindingsAt_of_kind_ne (by simp [hkind])
  have hproperty : propertyAt? p = none := propertyAt?_of_kind_ne (by simp [hkind])
  have hcall : callAt? p = none := callAt?_eq_none (by simp [calledNode?, hkind])
  have hmeasured : isMeasured p = false := isMeasured_of_not_isFunction (by rw [hkind]; rfl)
  simp only [contribute, declarationAt?, callableAt?_of_class hkind, classAt?, hbindings,
    hproperty, hmethod, hcall, hmeasured]
  cases isNamedClass p <;> rfl

/-- A class is read in full when it has no name, and else its body is. -/
lemma classOutline_follows (hkind : p.kind = .classDeclaration) :
    (classOutline (scopeOf p) p (boundName? p)).Follows := by
  have hnamed := isSome_className? hkind (isSome_boundName? p)
  have hcallable := callableAt?_of_class hkind
  have hnames : namesValue p = false := namesValue_of_kind_ne (by simp [hkind])
  rw [classOutline]
  cases hname : className? p (boundName? p) with
  | none =>
    have hclass : isNamedClass p = false := by rw [← hnamed, hname]; rfl
    refine Outline.passing_follows (f := id) (by simp [readChildren, hkind, hclass]) hclass
      hcallable hnames fun h => ?_
    rw [contribute_of_class hkind, hclass]
    rfl
  | some name =>
    have hclass : isNamedClass p = true := by rw [← hnamed, hname]; rfl
    have hclassName : className p = name := by rw [className, hname]; rfl
    have hscope : scopeInside p =
        ⟨some ⟨name, classParent? p.node, isExportChild p⟩, (scopeOf p).caller⟩ := by
      rw [scopeInside, if_pos hclass, hcallable, enclosingOf, hclassName]
      rfl
    refine Outline.child_follows (by simp [readChildren, hkind, hclass]) hscope
      (fun r hr => alone_of_mem_children hnames (by simp [hkind]) (mem_children_of_field? hr))
      fun h => ?_
    rw [contribute_of_class hkind, if_pos hclass, hclassName]
    rfl

end

/-! ## Fields -/

section

variable {p : Place}

lemma isSome_classAround? (p : Place) : (classAround? p).isSome = inNamedClass p := by
  rw [classAround?, around, inNamedClass, Bool.eq_iff_iff, List.find?_isSome, List.any_eq_true]

lemma contribute_of_field (hkind : p.kind = .fieldDefinition) (h : Harvest) :
    contribute p h = Harvest.token p.node.flowToken? { h with
      declarations := (methodAt? p).toList ++ h.declarations
      methods := ((methodAt? p).map fun d => (d.name, d.line)).toList ++ h.methods
      properties := (propertyAt? p).toList ++ h.properties } := by
  have hclass : isNamedClass p = false := isNamedClass_of_kind_ne (by simp [hkind])
  have hfunction : functionAt? p = none :=
    functionAt?_of_kind_ne (by rw [hkind]; rfl) (by simp [hkind])
  have hbindings : bindingsAt p = [] := bindingsAt_of_kind_ne (by simp [hkind])
  have hcall : callAt? p = none := callAt?_eq_none (by simp [calledNode?, hkind])
  have hmeasured : isMeasured p = false := isMeasured_of_not_isFunction (by rw [hkind]; rfl)
  simp only [contribute, declarationAt?, callableAt?, hfunction, classAt?_eq_none hclass, hclass,
    hbindings, hcall, hmeasured, Option.or_none]
  rfl

lemma callableAt?_of_field (hkind : p.kind = .fieldDefinition) : callableAt? p = methodAt? p := by
  rw [callableAt?, functionAt?_of_kind_ne (by rw [hkind]; rfl) (by simp [hkind])]
  rfl

lemma scopeOf_of_classAround? {c : Place} (hc : classAround? p = some c) :
    scopeOf p = ⟨some (enclosingOf c), callerAt? p⟩ := by
  rw [scopeOf, hc]
  rfl

lemma readChildren_of_field {c : Place} (hkind : p.kind = .fieldDefinition)
    (hc : classAround? p = some c) : readChildren p = (p.field? "value").toList := by
  have hin : inNamedClass p = true := by rw [← isSome_classAround?, hc]; rfl
  simp [readChildren, hkind, hin]

/-- A field in a class that holds no function is a property. -/
lemma property_follows {c : Place} (hkind : p.kind = .fieldDefinition)
    (hc : classAround? p = some c) (hvalue : holdsFunction p = false) :
    (⟨(Inner.field? p "value").toList.map (scopeOf p, ·),
      if (memberName p).isEmpty then id else Harvest.property (memberName p)⟩ :
        Outline p).Follows := by
  have hmethod : methodAt? p = none :=
    methodAt?_of_not_site (by simp [isMethodSite, hkind, hvalue])
  have hscope : scopeInside p = scopeOf p := scopeInside_eq_scopeOf
    (isNamedClass_of_kind_ne (by simp [hkind])) ((callableAt?_of_field hkind).trans hmethod)
  refine Outline.child_follows (readChildren_of_field hkind hc) hscope
    (fun r hr => alone_of_mem_children (namesValue_of_kind_ne (by simp [hkind])) (fun _ => hmethod)
      (mem_children_of_field? hr)) fun h => ?_
  rw [contribute_of_field hkind, hmethod, propertyAt?, isPropertySite, hkind, hvalue, hc]
  cases (memberName p).isEmpty <;> rfl

/-- A field in a class that holds a function is a method. -/
lemma fieldFunction_yields {c : Place} (hkind : p.kind = .fieldDefinition)
    (hc : classAround? p = some c) {v : Inner p} (hv : p.field? "value" = some v.1)
    (hvalued : isFunctionValue v.1 = true) :
    (Outline.lift v (memberFunction (scopeOf p) (enclosingOf c) (memberName p) p v.1)).Yields
      (readChildren v.1) := by
  have hchild := mem_children_of_field? hv
  have hholds : holdsFunction p = true := by simp [holdsFunction, hv, hvalued]
  have hmethod : methodAt? p = some ⟨memberName p, .method, some (className c), p.line,
      isExportChild c, isDocumented p⟩ := by
    simp [methodAt?, isMethodSite, hkind, hholds, hc]
  have hexpression : Expression v.1 := by
    refine expression_of_isFunctionValue hvalued ?_
    rw [isExportChild_of_mem_children hchild, hkind]
    rfl
  have hheld : boundName? v.1 = none ∧ fieldMethod? v.1 = methodAt? p := by
    rw [boundName?_of_mem_children hchild, fieldMethod?_of_mem_children hchild,
      namesValue_of_kind_ne (by simp [hkind]), hkind]
    exact ⟨rfl, rfl⟩
  have hname : functionName? v.1 = some (memberName p) := by
    rw [hexpression.name, hheld.1, hheld.2, hmethod]
    rfl
  have howner : functionOwner? v.1 = some (className c) := by
    rw [hexpression.owner, hheld.2, hmethod]
    rfl
  have hscope : scopeOf v.1 = { scopeOf p with
      caller := some (memberKey (some (className c)) (memberName p)) } := by
    rw [scopeOf_of_mem_children hchild, scopeInside, isNamedClass_of_kind_ne (by simp [hkind]),
      callableAt?_of_field hkind, hmethod]
    rfl
  have hfollows := hexpression.follows hscope.symm
  rw [hname, howner] at hfollows
  refine hfollows.lift (f := Harvest.declaring ⟨memberName p, .method, some (className c), p.line,
      isExportChild c, isDocumented p⟩ ∘ Harvest.method (memberName p) p.line)
    (by rw [readChildren_of_field hkind hc, hv]; rfl)
    (flowToken?_of_isFunction hexpression.isFunction) fun h => ?_
  have hproperty : propertyAt? p = none := by simp [propertyAt?, isPropertySite, hholds]
  rw [contribute_of_field hkind, hmethod, hproperty]
  rfl

/-- A field without a class around it is read like anything else, a field in a class is one of its
members. -/
lemma fieldOutline_yields (hkind : p.kind = .fieldDefinition) :
    ∃ places, (fieldOutline (scopeOf p) p).Yields places := by
  rw [fieldOutline]
  cases hc : classAround? p with
  | none =>
    have hin : inNamedClass p = false := by rw [← isSome_classAround?, hc]; rfl
    have hmethod : methodAt? p = none := by simp [methodAt?, hc]
    have hproperty : propertyAt? p = none := by simp [propertyAt?, hc]
    have hscope : (scopeOf p).enclosing = none := by rw [scopeOf, hc]; rfl
    rw [hscope]
    refine ⟨_, (Outline.passing_follows (f := id) (by simp [readChildren, hkind, hin])
      (isNamedClass_of_kind_ne (by simp [hkind])) ((callableAt?_of_field hkind).trans hmethod)
      (namesValue_of_kind_ne (by simp [hkind])) fun h => ?_).yields⟩
    rw [contribute_of_field hkind, hmethod, hproperty]
    rfl
  | some c =>
    have hscope : (scopeOf p).enclosing = some (enclosingOf c) := by
      rw [scopeOf_of_classAround? hc]
    have hname : (((p.node.field? "property").or (p.node.field? "name")).map (·.text)).getD "" =
        memberName p := by simp [memberName, hkind]
    rw [hscope]
    dsimp only
    rw [hname]
    cases hv : Inner.field? p "value" with
    | none =>
      have hfollows := property_follows hkind hc
        (by simp [holdsFunction, Inner.place_field?_of_eq_none hv])
      rw [hv] at hfollows
      exact ⟨_, hfollows.yields⟩
    | some v =>
      have hvalue := Inner.place_field?_of_eq_some hv
      dsimp only
      by_cases hvalued : isFunctionValue v.1 = true
      · rw [if_pos hvalued]
        exact ⟨_, fieldFunction_yields hkind hc hvalue hvalued⟩
      · have hfollows := property_follows hkind hc (by simp [holdsFunction, hvalue, hvalued])
        rw [hv] at hfollows
        rw [if_neg hvalued]
        exact ⟨_, hfollows.yields⟩

end

end ScriptSurvey.Extraction
