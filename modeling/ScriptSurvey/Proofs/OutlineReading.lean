import ScriptSurvey.Proofs.CalledNames

/-!
# What an outline reads

`Outline.Covers` ties the outline of one place to its `readChildren`, with one lemma for each kind
of place: what is read next makes the same calls, and the place adds at most its own.
-/
namespace ScriptSurvey.Extraction

open Syntax (Node Place Kind)

/-- The scope knows of the class around the place, and a class that takes the name of a variable is
not outlined by itself. -/
structure Settled (scope : Scope) (p : Place) : Prop where
  enclosed : scope.enclosing.isSome = inNamedClass p
  unbound : p.kind = .classDeclaration → isBound p = false

namespace Inner

variable {p : Place} {name : String}

lemma map_children : (children p).map (·.1) = p.children := by
  simp [children]

lemma map_field? : (field? p name).map (·.1) = p.field? name := by
  unfold field?
  split
  case h_1 hfield => exact hfield.symm
  case h_2 hfield => exact hfield.symm

lemma place_field?_of_eq_some {v : Inner p} (h : field? p name = some v) :
    p.field? name = some v.1 := by rw [← map_field?, h]; rfl

lemma place_field?_of_eq_none (h : field? p name = none) : p.field? name = none := by
  rw [← map_field?, h]; rfl

end Inner

namespace Outline

/-- The places that are read next, without the bounds on their sizes. -/
def reading {p : Place} (o : Outline p) : List (Scope × Place) :=
  o.inside.map fun (s, q) => (s, q.1)

/-- The outline adds at most the one call, and mentions what these places mention. -/
structure Covers {p : Place} (o : Outline p) (own : Option CallSite) (places : List Place) :
    Prop where
  finish : ∀ h, (o.finish h).calls = own.toList ++ h.calls
  settled : ∀ x ∈ o.reading, Settled x.1 x.2
  mentions : ∀ n, (∃ x ∈ o.reading, Mentions x.2 n) ↔ ∃ r ∈ places, Mentions r n

variable {p : Place} {places : List Place}

lemma covers_of_reading_eq (scope : Scope) {o : Outline p}
    (hfinish : ∀ h, (o.finish h).calls = h.calls)
    (hreading : o.reading = places.map (scope, ·)) (hsettled : ∀ r ∈ places, Settled scope r) :
    o.Covers none places where
  finish := hfinish
  settled := by
    rw [hreading]
    intro x hx
    obtain ⟨r, hr, rfl⟩ := List.mem_map.mp hx
    exact hsettled r hr
  mentions n := by
    rw [hreading]
    simp only [List.mem_map, exists_exists_and_eq_and]

lemma Covers.andThen {o : Outline p} {f : Harvest → Harvest} (h : o.Covers none places)
    (hf : ∀ h, (f h).calls = h.calls) : (o.andThen f).Covers none places where
  finish harvest := by
    change (f (o.finish harvest)).calls = _
    rw [hf, h.finish]
  settled := h.settled
  mentions := h.mentions

lemma reading_lift (q : Inner p) (o : Outline q.1) : (lift q o).reading = o.reading := by
  simp [lift, reading, Inner.within]

/-- An inner place that makes no call of its own is read through. -/
lemma Covers.lift {q : Inner p} {o : Outline q.1} (h : o.Covers none (readChildren q.1))
    (hq : calledNode? q.1 = none) : (Outline.lift q o).Covers none [q.1] where
  finish := h.finish
  settled := by
    rw [reading_lift]
    exact h.settled
  mentions n := by
    rw [reading_lift, h.mentions, ← mentions_of_calledNode?_eq_none hq]
    simp

lemma reading_passing (scope : Scope) : (passing scope p).reading = p.children.map (scope, ·) := by
  rw [reading, passing, ← Inner.map_children, List.map_map, List.map_map]
  rfl

end Outline

section

variable {scope : Scope} {p r : Place}

lemma isNamedClass_of_kind_ne (h : p.kind ≠ .classDeclaration) : isNamedClass p = false := by
  simp [isNamedClass, h]

lemma namesValue_of_kind_ne (h : p.kind ≠ .variableDeclarator) : namesValue p = false := by
  simp [namesValue, h]

lemma enclosed_of_mem_children (henclosed : scope.enclosing.isSome = inNamedClass p)
    (hclass : isNamedClass p = false) (hr : r ∈ p.children) :
    scope.enclosing.isSome = inNamedClass r := by
  rw [inNamedClass_of_mem_children hr, hclass, Bool.false_or, henclosed]

/-- Going down from a place that neither declares a class nor names its value changes nothing. -/
lemma settled_of_mem_children (henclosed : scope.enclosing.isSome = inNamedClass p)
    (hclass : isNamedClass p = false) (hnames : namesValue p = false) (hr : r ∈ p.children) :
    Settled scope r where
  enclosed := enclosed_of_mem_children henclosed hclass hr
  unbound _ := by rw [isBound_of_mem_children hr, hnames]

lemma passing_covers (henclosed : scope.enclosing.isSome = inNamedClass p)
    (hclass : isNamedClass p = false) (hnames : namesValue p = false) :
    (Outline.passing scope p).Covers none p.children :=
  Outline.covers_of_reading_eq scope (fun _ => rfl) (Outline.reading_passing scope) fun _ hr =>
    settled_of_mem_children henclosed hclass hnames hr

lemma reading_functionOutline (scope : Scope) (p : Place) (name owner : Option String) :
    (functionOutline scope p name owner).reading = (functionParts p).map (scope, ·) := by
  simp only [Outline.reading, functionOutline, functionParts, ← Inner.map_field?]
  cases Inner.field? p "parameters" <;> cases Inner.field? p "parameter" <;>
    cases Inner.field? p "body" <;> rfl

/-- Functions read the same of themselves wherever they stand. -/
lemma functionOutline_covers (scope : Scope)
    (henclosed : scope.enclosing.isSome = inNamedClass p) (hfunction : p.kind.isFunction = true)
    (name owner : Option String) :
    (functionOutline scope p name owner).Covers none (readChildren p) := by
  have hclass : p.kind ≠ .classDeclaration := fun h => by simp [h, Kind.isFunction] at hfunction
  have hvariable : p.kind ≠ .variableDeclarator :=
    fun h => by simp [h, Kind.isFunction] at hfunction
  rw [readChildren_of_isFunction hfunction]
  refine Outline.covers_of_reading_eq scope ?_ (reading_functionOutline scope p name owner)
    fun r hr => settled_of_mem_children henclosed (isNamedClass_of_kind_ne hclass)
      (namesValue_of_kind_ne hvariable) (mem_children_of_mem_functionParts hr)
  intro h
  simp only [functionOutline]
  split_ifs <;> rfl

lemma declaredFunction_covers (henclosed : scope.enclosing.isSome = inNamedClass p)
    (hfunction : p.kind.isFunction = true) :
    (declaredFunction scope p).Covers none (readChildren p) := by
  refine Outline.Covers.andThen ?_ fun _ => rfl
  exact functionOutline_covers ⟨scope.enclosing, some _⟩ henclosed hfunction _ _

lemma memberFunction_covers (henclosed : scope.enclosing.isSome = inNamedClass p)
    (hfunction : p.kind.isFunction = true) (cls : EnclosingClass) (name : String) (site : Place) :
    (memberFunction scope cls name site p).Covers none (readChildren p) := by
  refine Outline.Covers.andThen ?_ fun _ => rfl
  exact functionOutline_covers ⟨scope.enclosing, some _⟩ henclosed hfunction _ _

lemma methodOutline_covers (henclosed : scope.enclosing.isSome = inNamedClass p)
    (hfunction : p.kind.isFunction = true) :
    (methodOutline scope p).Covers none (readChildren p) := by
  unfold methodOutline
  dsimp only
  split
  · split_ifs
    · exact memberFunction_covers henclosed hfunction _ _ _
    · exact functionOutline_covers scope henclosed hfunction _ _
  · exact functionOutline_covers scope henclosed hfunction _ _

lemma reading_child (scope : Scope) (p : Place) (name : String) (finish : Harvest → Harvest) :
    (⟨(Inner.field? p name).toList.map (scope, ·), finish⟩ : Outline p).reading =
      (p.field? name).toList.map (scope, ·) := by
  simp only [Outline.reading, ← Inner.map_field?]
  cases Inner.field? p name <;> rfl

lemma childOutline_covers (scope : Scope) {name : String} {finish : Harvest → Harvest}
    (hfinish : ∀ h, (finish h).calls = h.calls)
    (hsettled : ∀ r, p.field? name = some r → Settled scope r) :
    (⟨(Inner.field? p name).toList.map (scope, ·), finish⟩ : Outline p).Covers none
      (p.field? name).toList :=
  Outline.covers_of_reading_eq scope hfinish (reading_child scope p name finish) fun r hr =>
    hsettled r (Option.mem_toList.mp hr)

lemma isSome_className? (hkind : p.kind = .classDeclaration) {bound : Option String}
    (hbound : bound.isSome = isBound p) : (className? p bound).isSome = isNamedClass p := by
  simp only [className?, Option.isSome_or, Option.isSome_map, hbound, isNamedClass, hkind,
    beq_self_eq_true, Bool.true_and]
  cases isExportChild p <;> rfl

/-- A class reads its body when it has a name, and everything otherwise. -/
lemma classOutline_covers (henclosed : scope.enclosing.isSome = inNamedClass p)
    (hkind : p.kind = .classDeclaration) {bound : Option String}
    (hbound : bound.isSome = isBound p) :
    (classOutline scope p bound).Covers none (readChildren p) := by
  have hnamed := isSome_className? hkind hbound
  have hnames : namesValue p = false := namesValue_of_kind_ne (by simp [hkind])
  unfold classOutline
  split
  case h_1 hname =>
    have hclass : isNamedClass p = false := by rw [← hnamed, hname]; rfl
    have hread : readChildren p = p.children := by simp [readChildren, hkind, hclass]
    rw [hread]
    exact passing_covers henclosed hclass hnames
  case h_2 name hname =>
    have hclass : isNamedClass p = true := by rw [← hnamed, hname]; rfl
    have hread : readChildren p = (p.field? "body").toList := by
      simp [readChildren, hkind, hclass]
    rw [hread]
    refine childOutline_covers _ (fun _ => rfl) fun r hr => ?_
    have hchild : r ∈ p.children := mem_children_of_field? hr
    exact ⟨by rw [inNamedClass_of_mem_children hchild, hclass]; rfl,
      fun _ => by rw [isBound_of_mem_children hchild, hnames]⟩

lemma isFunction_of_isFunctionValue (h : isFunctionValue p = true) : p.kind.isFunction = true := by
  simp only [isFunctionValue, Bool.or_eq_true, beq_iff_eq] at h
  rcases h with h | h <;> rw [h] <;> rfl

lemma calledNode?_of_isFunction (h : p.kind.isFunction = true) : calledNode? p = none := by
  unfold calledNode?
  split
  case h_1 hkind => simp [hkind, Kind.isFunction] at h
  case h_2 hkind => simp [hkind, Kind.isFunction] at h
  case h_3 => rfl

lemma fieldOutline_covers (henclosed : scope.enclosing.isSome = inNamedClass p)
    (hkind : p.kind = .fieldDefinition) :
    (fieldOutline scope p).Covers none (readChildren p) := by
  have hclass : isNamedClass p = false := isNamedClass_of_kind_ne (by simp [hkind])
  have hnames : namesValue p = false := namesValue_of_kind_ne (by simp [hkind])
  unfold fieldOutline
  split
  case h_1 hscope =>
    have hin : inNamedClass p = false := by rw [← henclosed, hscope]; rfl
    have hread : readChildren p = p.children := by simp [readChildren, hkind, hin]
    rw [hread]
    exact passing_covers henclosed hclass hnames
  case h_2 cls hscope =>
    have hin : inNamedClass p = true := by rw [← henclosed, hscope]; rfl
    have hread : readChildren p = (p.field? "value").toList := by
      simp [readChildren, hkind, hin]
    have hfinish (name : String) (h : Harvest) :
        ((if name.isEmpty then id else Harvest.property name) h).calls = h.calls := by
      split_ifs <;> rfl
    have hsettled (r : Place) (hr : p.field? "value" = some r) : Settled scope r :=
      settled_of_mem_children henclosed hclass hnames (mem_children_of_field? hr)
    have hproperty (name : String) := childOutline_covers scope (hfinish name) hsettled
    rw [hread]
    dsimp only
    split
    case h_1 v hv =>
      by_cases hvalued : isFunctionValue v.1 = true
      · have hfunction := isFunction_of_isFunctionValue hvalued
        have hvalue := Inner.place_field?_of_eq_some hv
        rw [if_pos hvalued, hvalue]
        exact (memberFunction_covers (hsettled _ hvalue).enclosed hfunction _ _ _).lift
          (calledNode?_of_isFunction hfunction)
      · rw [if_neg hvalued]
        rw [hv] at hproperty
        exact hproperty _
    case h_2 hv =>
      rw [hv] at hproperty
      exact hproperty _

/-- A function that is the value of a variable is read through. -/
lemma valueFunction_covers (henclosed : scope.enclosing.isSome = inNamedClass p)
    (hclass : isNamedClass p = false) {v : Inner p} (hv : Inner.field? p "value" = some v)
    (hfunction : v.1.kind.isFunction = true) (caller name : Option String) :
    (Outline.lift v (functionOutline ⟨scope.enclosing, caller⟩ v.1 name none)).Covers none
      (p.field? "value").toList := by
  have hvalue := Inner.place_field?_of_eq_some hv
  have hinner := enclosed_of_mem_children henclosed hclass (mem_children_of_field? hvalue)
  rw [hvalue, Option.toList_some]
  exact (functionOutline_covers ⟨scope.enclosing, caller⟩ hinner hfunction _ _).lift
    (calledNode?_of_isFunction hfunction)

/-- A class that takes the name of a variable is read through, as a class with a name. -/
lemma valueClass_covers (henclosed : scope.enclosing.isSome = inNamedClass p)
    (hclass : isNamedClass p = false) (hnames : namesValue p = true) {v : Inner p}
    (hv : Inner.field? p "value" = some v) (hkind : v.1.kind = .classDeclaration)
    (name : String) :
    (Outline.lift v (classOutline scope v.1 (some name))).Covers none
      (p.field? "value").toList := by
  have hvalue := Inner.place_field?_of_eq_some hv
  have hchild := mem_children_of_field? hvalue
  have hinner := enclosed_of_mem_children henclosed hclass hchild
  have hbound : (some name).isSome = isBound v.1 := by
    rw [isBound_of_mem_children hchild, hnames]
    rfl
  rw [hvalue, Option.toList_some]
  exact (classOutline_covers hinner hkind hbound).lift (by simp [calledNode?, hkind])

lemma declaratorOutline_covers (henclosed : scope.enclosing.isSome = inNamedClass p)
    (hkind : p.kind = .variableDeclarator) :
    (declaratorOutline scope p).Covers none (readChildren p) := by
  have hclass : isNamedClass p = false := isNamedClass_of_kind_ne (by simp [hkind])
  have hnames : namesValue p = (p.node.field? "name").any (·.label == "identifier") := by
    simp [namesValue, hkind]
  have hfinish (names : List String) (h : Harvest) :
      ((if (p.parent?.map isExportChild).getD false then id else Harvest.binding names p.line)
        h).calls = h.calls := by
    split_ifs <;> rfl
  have hplain (names : List String)
      (hvalue : ∀ r, p.field? "value" = some r → r.kind = .classDeclaration → isBound r = false) :=
    childOutline_covers scope (hfinish names) fun r hr =>
      ⟨enclosed_of_mem_children henclosed hclass (mem_children_of_field? hr), hvalue r hr⟩
  unfold declaratorOutline
  split
  case h_1 hname =>
    rw [hname] at hnames
    have hread : readChildren p = p.children := by simp [readChildren, hkind, hname]
    rw [hread]
    exact passing_covers henclosed hclass hnames
  case h_2 nameNode hname =>
    rw [hname, Option.any_some] at hnames
    have hread : readChildren p = (p.field? "value").toList := by
      simp [readChildren, hkind, hname]
    rw [hread]
    dsimp only
    by_cases hidentifier : (nameNode.label == "identifier") = true
    · rw [if_pos hidentifier]
      rw [hidentifier] at hnames
      split
      case h_1 hv =>
        exact hplain _ fun r hr => by simp [Inner.place_field?_of_eq_none hv] at hr
      case h_2 v hv =>
        by_cases hvalued : isFunctionValue v.1 = true
        · have hfunction := isFunction_of_isFunctionValue hvalued
          rw [if_pos hvalued]
          split_ifs
          · refine Outline.Covers.andThen ?_ fun _ => rfl
            exact valueFunction_covers henclosed hclass hv hfunction (some _) _
          · exact valueFunction_covers henclosed hclass hv hfunction scope.caller _
        · rw [if_neg hvalued]
          by_cases hvclass : v.1.kind = .classDeclaration
          · rw [if_pos (beq_iff_eq.mpr hvclass)]
            exact valueClass_covers henclosed hclass hnames hv hvclass _
          · rw [if_neg (by simpa using hvclass)]
            refine hplain _ fun r hr hrclass => ?_
            rw [Inner.place_field?_of_eq_some hv, Option.some.injEq] at hr
            exact (hvclass (hr ▸ hrclass)).elim
    · rw [if_neg hidentifier]
      rw [Bool.not_eq_true] at hidentifier
      rw [hidentifier] at hnames
      exact hplain _ fun r hr _ => by
        rw [isBound_of_mem_children (mem_children_of_field? hr), hnames]

lemma callOutline_covers (henclosed : scope.enclosing.isSome = inNamedClass p)
    (hclass : isNamedClass p = false) (hnames : namesValue p = false) (callee : Option Node) :
    (callOutline scope p callee).Covers (callee.bind (callSite? scope · p.line)) p.children := by
  have hpassing := passing_covers henclosed hclass hnames
  unfold callOutline
  split
  case h_1 c hsite =>
    rw [hsite]
    exact ⟨fun _ => rfl, hpassing.settled, hpassing.mentions⟩
  case h_2 hsite =>
    rw [hsite]
    exact hpassing

/-- Every outline reads what `readChildren` lists. -/
theorem outline_covers (h : Settled scope p) :
    (outline scope p).Covers (ownCall? scope p) (readChildren p) := by
  have hother (hclass : p.kind ≠ .classDeclaration) (hvariable : p.kind ≠ .variableDeclarator) :=
    passing_covers h.enclosed (isNamedClass_of_kind_ne hclass) (namesValue_of_kind_ne hvariable)
  have hsilent (hnone : calledNode? p = none) : ownCall? scope p = none := by
    rw [ownCall?, hnone, Option.bind_none]
  have hcall (hclass : p.kind ≠ .classDeclaration) (hvariable : p.kind ≠ .variableDeclarator) :=
    callOutline_covers h.enclosed (isNamedClass_of_kind_ne hclass)
      (namesValue_of_kind_ne hvariable)
  unfold outline
  split
  case h_1 hkind =>
    rw [hsilent (by simp [calledNode?, hkind])]
    exact declaredFunction_covers h.enclosed (by rw [hkind]; rfl)
  case h_2 hkind | h_3 hkind =>
    rw [hsilent (by simp [calledNode?, hkind])]
    split_ifs
    · exact declaredFunction_covers h.enclosed (by rw [hkind]; rfl)
    · exact functionOutline_covers scope h.enclosed (by rw [hkind]; rfl) _ _
  case h_4 hkind =>
    rw [hsilent (by simp [calledNode?, hkind])]
    exact methodOutline_covers h.enclosed (by rw [hkind]; rfl)
  case h_5 hkind =>
    rw [hsilent (by simp [calledNode?, hkind])]
    exact classOutline_covers h.enclosed hkind (h.unbound hkind).symm
  case h_6 hkind =>
    rw [hsilent (by simp [calledNode?, hkind])]
    exact fieldOutline_covers h.enclosed hkind
  case h_7 hkind =>
    rw [hsilent (by simp [calledNode?, hkind])]
    exact declaratorOutline_covers h.enclosed hkind
  case h_8 hkind =>
    have hread : readChildren p = p.children := by simp [readChildren, hkind]
    have hown : calledNode? p = p.node.field? "function" := by simp [calledNode?, hkind]
    rw [hread, ownCall?, hown]
    exact hcall (by simp [hkind]) (by simp [hkind]) _
  case h_9 hkind =>
    have hread : readChildren p = p.children := by simp [readChildren, hkind]
    have hown : calledNode? p = p.node.field? "constructor" := by simp [calledNode?, hkind]
    rw [hread, ownCall?, hown]
    exact hcall (by simp [hkind]) (by simp [hkind]) _
  case h_10 =>
    have hread : readChildren p = p.children := by
      unfold readChildren
      split <;> first | rfl | contradiction
    have hnone : calledNode? p = none := by
      unfold calledNode?
      split <;> first | rfl | contradiction
    rw [hread, hsilent hnone]
    exact hother ‹_› ‹_›

end

end ScriptSurvey.Extraction
