import ScriptSurvey.Proofs.CoherentSheets

/-!
# The nearest class

Members belong to the nearest class around them that has a name, and calls on `this` are qualified by
its name. This is the nearest class of all unless that one has no name: a class without a name is
passed over, and what stands in its body goes to the next class outside.
-/
namespace ScriptSurvey.Extraction

open Syntax (Node Place Kind)

/-! ## Classes around places -/

section

variable {closes wide : Place → Bool} {p q k : Place}

/-- Looking among more places comes to one no further out; the search goes on from there. -/
lemma find?_eq_bind_find? (hwide : ∀ p, closes p = true → wide p = true)
    (above : List (Node × List Node)) :
    (enclosingPlaces above).find? closes =
      ((enclosingPlaces above).find? wide).bind fun k =>
        if closes k = true then some k else around closes k := by
  induction above with
  | nil => rfl
  | cons outer rest ih =>
    obtain ⟨node, before⟩ := outer
    rw [enclosingPlaces, List.find?_cons, List.find?_cons]
    cases hcloses : closes ⟨node, before, rest⟩ with
    | true => rw [hwide _ hcloses, Option.bind_some, if_pos hcloses]
    | false =>
      cases wide ⟨node, before, rest⟩ with
      | true => rw [Option.bind_some, hcloses, if_neg Bool.false_ne_true, around]
      | false => exact ih

/-- The nearest class around a place, with a name or without. -/
def nearestClass? (p : Place) : Option Place := around (·.kind == .classDeclaration) p

lemma kind_of_isNamedClass (h : isNamedClass p = true) : (p.kind == .classDeclaration) = true := by
  rw [isNamedClass, Bool.and_eq_true] at h
  exact h.1

/-- A class without a name is passed over. -/
lemma classAround?_eq (p : Place) : classAround? p =
    (nearestClass? p).bind fun k => if isNamedClass k then some k else classAround? k :=
  find?_eq_bind_find? (fun _ => kind_of_isNamedClass) p.above

lemma Reads.nearestClass {tree : Node} (h : Reads (Place.ofRoot tree) q)
    (hk : nearestClass? q = some k) : Reads (Place.ofRoot tree) k :=
  (h.enclosing (List.mem_of_find?_eq_some hk)).resolve_left List.not_mem_nil

end

/-! ## Calls on `this` -/

def CallsThis (p : Place) (m : String) : Prop :=
  m ≠ "" ∧ ∃ callee, calledNode? p = some callee ∧ callee.label = "member_expression" ∧
    (∃ object, callee.field? "object" = some object ∧ object.label = "this") ∧
    ∃ property, callee.field? "property" = some property ∧ property.text = m

instance (p : Place) (m : String) : Decidable (CallsThis p m) :=
  decidable_of_iff
    (m ≠ "" ∧ ((calledNode? p).any fun c => c.label == "member_expression" &&
      (c.field? "object").any (·.label == "this") &&
        (c.field? "property").any (·.text == m)) = true)
    (by simp [CallsThis, Option.any_eq_true, and_assoc])

section

variable {p : Place} {m : String}

lemma callAt?_of_callsThis (h : CallsThis p m) :
    callAt? p = some ⟨callerAt? p, m, (classAround? p).map className, p.line⟩ := by
  obtain ⟨hm, callee, hcallee, hlabel, ⟨object, hobject, hthis⟩, property, hproperty, rfl⟩ := h
  have hqualifier : qualifierOf (scopeOf p) object = (classAround? p).map className := by
    simp only [qualifierOf, hthis, scopeOf, Option.map_map]
    rfl
  have hnamed : calledName? (scopeOf p) callee =
      some (property.text, (classAround? p).map className) := by
    simp [calledName?, hlabel, hobject, hproperty, hqualifier]
  rw [callAt?, ownCall?, hcallee, Option.bind_some, callSite?, hnamed, Option.bind_some]
  simp [hm, scopeOf]

/-- Keys of one callee tell the qualifiers. -/
lemma memberKey_left_inj {a b : Option String} {n : String} (h : memberKey a n = memberKey b n) :
    a = b := by
  have hlength (o : String) : (o ++ "." ++ n).length ≠ n.length := by
    simp only [String.length_append]
    have : ".".length = 1 := rfl
    omega
  cases a with
  | none =>
    cases b with
    | none => rfl
    | some o => exact absurd (congrArg String.length h).symm (hlength o)
  | some o =>
    cases b with
    | none => exact absurd (congrArg String.length h) (hlength o)
    | some o' =>
      have hjoined : o ++ "." ++ n = o' ++ "." ++ n := h
      simpa [String.append_assoc] using hjoined

/-- Of called names without dots, the call with the caller and key of a place has its callee and
qualifier as well. -/
lemma exists_gather_call {tree : Node} {q : Place} {c : CallSite} (plain : PlainNames tree)
    (hq : q ∈ readPlaces (Place.ofRoot tree)) (hc : callAt? q = some c) (path : Path)
    (language : Language) (lineCount : Nat) :
    ∃ d ∈ (gather path language lineCount tree).calls,
      d.caller = c.caller ∧ d.callee = c.callee ∧ d.qualifier = c.qualifier := by
  have hplain : ∀ e ∈ (readPlaces (Place.ofRoot tree)).filterMap callAt?,
      '.' ∉ e.callee.toList := by
    intro e he
    obtain ⟨r, hr, hcall⟩ := List.mem_filterMap.mp he
    exact plain r (mem_readPlaces_iff.mp hr).mem_places _ (exists_ownCall?_iff.mp ⟨e, hcall, rfl⟩)
  have hmem : c ∈ (readPlaces (Place.ofRoot tree)).filterMap callAt? :=
    List.mem_filterMap.mpr ⟨q, hq, hc⟩
  obtain ⟨d, hd, hcaller, hkey⟩ := exists_mem_distinctCalls hmem
  have hcallee : d.callee = c.callee := by
    rw [← String.toList_inj, ← lastPart_key (hplain d ((distinctCalls_sublist _).subset hd)), hkey,
      lastPart_key (hplain c hmem)]
  rw [CallSite.key, CallSite.key, hcallee] at hkey
  rw [gather_calls]
  exact ⟨d, hd, hcaller, hcallee, memberKey_left_inj hkey⟩

end

/-! ## Members -/

lemma gather_methodDeclarations (path : Path) (language : Language) (lineCount : Nat)
    (tree : Node) :
    (gather path language lineCount tree).declarations.filter (fun d => d.kind == .method) =
      (readPlaces (Place.ofRoot tree)).filterMap methodAt? := by
  rw [gather_declarations, List.filter_filterMap]
  exact List.filterMap_congr fun q _ => filter_declarationAt? q

/-- A class has an entry when it has a name, with the methods and properties of the places whose
nearest class with a name it is, and these are the declared methods. A call on `this` is qualified
by the same class. It is the nearest of all classes when that one has a name, and else the nearest
around that one. -/
theorem gather_members_nearest (tree : Node) (plain : PlainNames tree) (path : Path)
    (language : Language) (lineCount : Nat) :
    let sheet := gather path language lineCount tree
    let read := readPlaces (Place.ofRoot tree)
    sheet.classes = (read.filter isNamedClass).map
        (fun c => classInfoOf c (methodsOf c) (propertiesOf c)) ∧
      sheet.declarations.filter (fun d => d.kind == .method) = read.filterMap methodAt? ∧
      (∀ q ∈ read, ∀ m, CallsThis q m → ∃ c ∈ sheet.calls, c.caller = callerAt? q ∧
        c.callee = m ∧ c.qualifier = (classAround? q).map className) ∧
      ∀ q ∈ read, (∀ k, nearestClass? q = some k → k ∈ read) ∧ classAround? q =
        (nearestClass? q).bind fun k => if isNamedClass k then some k else classAround? k := by
  refine ⟨gather_classes path language lineCount tree,
    gather_methodDeclarations path language lineCount tree, ?_, ?_⟩
  · intro q hq m hcalls
    exact exists_gather_call plain hq (callAt?_of_callsThis hcalls) path language lineCount
  · intro q hq
    refine ⟨fun k hk => ?_, classAround?_eq q⟩
    exact mem_readPlaces_iff.mpr ((mem_readPlaces_iff.mp hq).nearestClass hk)

def methodNode (name text body : String) (statement : Node) : Node :=
  part "method_definition" "member" text 0
    [part "property_identifier" "name" name 0 [],
      part "formal_parameters" "parameters" "()" 0 [sign "(" 0, sign ")" 0],
      part "statement_block" "body" body 0 [sign "\x7b" 0, statement, sign "\x7d" 0]]

def classNode (label : String) (name : Option String) (text body : String) (method : Node) : Node :=
  part label "" text 0
    (sign "class" 0 :: (name.map fun n => part "identifier" "name" n 0 []).toList ++
      [part "class_body" "body" body 0 [sign "\x7b" 0, method, sign "\x7d" 0]])

def thisCall : Node :=
  part "expression_statement" "" "this.o();" 0
    [part "call_expression" "" "this.o()" 0
      [part "member_expression" "function" "this.o" 0
          [part "this" "object" "this" 0 [], sign "." 0,
            part "property_identifier" "property" "o" 0 []],
        part "arguments" "arguments" "()" 0 [sign "(" 0, sign ")" 0]],
      sign ";" 0]

/-- The class `A`, whose method `m` returns a class with the method `n`, which calls `this.o()`. -/
def nestedTree (name : Option String) : Node :=
  let inner := "class " ++ name.elim "" (· ++ " ") ++ "\x7b n() \x7b this.o(); \x7d \x7d"
  let block := "\x7b return " ++ inner ++ "; \x7d"
  let body := "\x7b m() " ++ block ++ " \x7d"
  part "program" "" ("class A " ++ body) 0
    [classNode "class_declaration" (some "A") ("class A " ++ body) body
      (methodNode "m" ("m() " ++ block) block
        (part "return_statement" "" ("return " ++ inner ++ ";") 0
          [sign "return" 0,
            classNode "class" name inner "\x7b n() \x7b this.o(); \x7d \x7d"
              (methodNode "n" "n() \x7b this.o(); \x7d" "\x7b this.o(); \x7d" thisCall),
            sign ";" 0]))]

theorem gather_members_nearest_nested :
    let tree := nestedTree (some "B")
    PlainNames tree ∧ ∀ path language lineCount,
      let sheet := gather path language lineCount tree
      sheet.classes = [⟨"A", 1, none, [("m", 1)], []⟩, ⟨"B", 1, none, [("n", 1)], []⟩] ∧
        ∃ q ∈ readPlaces (Place.ofRoot tree), CallsThis q "o" ∧
          (nearestClass? q).map className = some "B" ∧
          ∃ c ∈ sheet.calls, c.callee = "o" ∧ c.qualifier = some "B" := by
  intro tree
  have hplain : PlainNames tree := by decide +kernel
  have hlisted : ((readPlaces (Place.ofRoot tree)).filter isNamedClass).map
      (fun c => classInfoOf c (methodsOf c) (propertiesOf c)) =
        [⟨"A", 1, none, [("m", 1)], []⟩, ⟨"B", 1, none, [("n", 1)], []⟩] := by
    decide +kernel
  have hplace : ∃ q ∈ readPlaces (Place.ofRoot tree), CallsThis q "o" ∧
      (nearestClass? q).map className = some "B" ∧ (classAround? q).map className = some "B" := by
    decide +kernel
  obtain ⟨q, hq, hthis, hnearest, haround⟩ := hplace
  refine ⟨hplain, fun path language lineCount => ?_⟩
  obtain ⟨hclasses, -, hcalls, -⟩ := gather_members_nearest tree hplain path language lineCount
  obtain ⟨c, hc, -, hcallee, hqualifier⟩ := hcalls q hq "o" hthis
  exact ⟨hclasses.trans hlisted, q, hq, hthis, hnearest, c, hc, hcallee,
    hqualifier.trans haround⟩

/-- The method `n` stands in a class without a name, and is declared, listed and called for `A`. -/
theorem member_of_nameless_class :
    let tree := nestedTree none
    tree.hasError = false ∧
      (∃ q ∈ tree.places, isMethodSite q = true ∧ memberName q = "n" ∧
        ∃ k ∈ nearestClass? q, isNamedClass k = false) ∧
      ∀ path language lineCount,
        let sheet := gather path language lineCount tree
        (∃ d ∈ sheet.declarations, d.kind = .method ∧ d.name = "n" ∧ d.owner = some "A") ∧
          (∃ info ∈ sheet.classes, info.name = "A" ∧ ("n", 1) ∈ info.methods) ∧
          ∃ c ∈ sheet.calls, c.callee = "o" ∧ c.qualifier = some "A" := by
  intro tree
  have hdeclarations : ∃ d ∈ (harvest Scope.outer (Place.ofRoot tree)).declarations,
      d.kind = .method ∧ d.name = "n" ∧ d.owner = some "A" := by decide +kernel
  have hclasses : ∃ info ∈ (harvest Scope.outer (Place.ofRoot tree)).classes,
      info.name = "A" ∧ ("n", 1) ∈ info.methods := by decide +kernel
  have hcalls : ∃ c ∈ distinctCalls (harvest Scope.outer (Place.ofRoot tree)).calls,
      c.callee = "o" ∧ c.qualifier = some "A" := by decide +kernel
  exact ⟨by decide +kernel, by decide +kernel, fun _ _ _ => ⟨hdeclarations, hclasses, hcalls⟩⟩

end ScriptSurvey.Extraction
