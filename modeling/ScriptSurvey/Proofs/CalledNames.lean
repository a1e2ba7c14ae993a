import ScriptSurvey.Proofs.ReadPlaces

/-!
# Called names

A call or construction has a name when its callee is an identifier or a member of an object. The
call recorded for a place has that name in every scope.
-/
namespace ScriptSurvey.Extraction

open Syntax (Node Place)

/-- What a call or a construction calls. -/
def calledNode? (p : Place) : Option Node :=
  match p.kind with
  | .callExpression => p.node.field? "function"
  | .newExpression => p.node.field? "constructor"
  | _ => none

/-- The callee is a bare name, or a member of the name. -/
def Names (callee : Node) (n : String) : Prop :=
  callee.label = "identifier" ∧ callee.text = n ∨
    callee.label = "member_expression" ∧
      ∃ property, callee.field? "property" = some property ∧ property.text = n

def Calls (p : Place) (n : String) : Prop :=
  n ≠ "" ∧ ∃ callee, calledNode? p = some callee ∧ Names callee n

def CallsBare (p : Place) (n : String) : Prop :=
  n ≠ "" ∧ ∃ callee, calledNode? p = some callee ∧ callee.label = "identifier" ∧ callee.text = n

instance (p : Place) (n : String) : Decidable (CallsBare p n) :=
  decidable_of_iff
    (n ≠ "" ∧ ((calledNode? p).any fun c => c.label == "identifier" && c.text == n) = true)
    (by simp [CallsBare, Option.any_eq_true])

/-- Some place that is read calls the name. -/
def Mentions (p : Place) (n : String) : Prop := ∃ q, Reads p q ∧ Calls q n

/-- The call recorded for a place itself. -/
def ownCall? (scope : Scope) (p : Place) : Option CallSite :=
  (calledNode? p).bind (callSite? scope · p.line)

section

variable {scope : Scope} {p : Place} {n : String}

lemma mentions_iff : Mentions p n ↔ Calls p n ∨ ∃ r ∈ readChildren p, Mentions r n := by
  constructor
  · rintro ⟨q, hreads, hcalls⟩
    cases hreads with
    | here => exact Or.inl hcalls
    | inside child rest => exact Or.inr ⟨_, child, q, rest, hcalls⟩
  · rintro (hcalls | ⟨r, child, q, rest, hcalls⟩)
    · exact ⟨p, .here p, hcalls⟩
    · exact ⟨q, .inside child rest, hcalls⟩

lemma mentions_of_calledNode?_eq_none (h : calledNode? p = none) :
    Mentions p n ↔ ∃ r ∈ readChildren p, Mentions r n := by
  have hnot : ¬Calls p n := by
    rintro ⟨-, callee, hcallee, -⟩
    simp [h] at hcallee
  rw [mentions_iff, or_iff_right hnot]

lemma exists_calledName?_iff (scope : Scope) (callee : Node) :
    (∃ qualifier, calledName? scope callee = some (n, qualifier)) ↔ Names callee n := by
  rw [calledName?, Names]
  split
  case h_1 hlabel => simp [hlabel]
  case h_2 hlabel =>
    simp only [Option.map_eq_some_iff, Prod.mk.injEq, hlabel, true_and]
    constructor
    · rintro ⟨_, property, hproperty, htext, -⟩
      exact Or.inr ⟨property, hproperty, htext⟩
    · rintro (⟨habsurd, -⟩ | ⟨property, hproperty, htext⟩)
      · simp at habsurd
      · exact ⟨_, property, hproperty, htext, rfl⟩
  case h_3 hidentifier hmember =>
    constructor
    · rintro ⟨_, habsurd⟩
      simp at habsurd
    · rintro (⟨hlabel, -⟩ | ⟨hlabel, -⟩)
      · exact (hidentifier hlabel).elim
      · exact (hmember hlabel).elim

lemma exists_callSite?_iff (callee : Node) (line : Nat) :
    (∃ c, callSite? scope callee line = some c ∧ c.callee = n) ↔ n ≠ "" ∧ Names callee n := by
  rw [← exists_calledName?_iff scope, callSite?]
  cases calledName? scope callee with
  | none => simp
  | some called =>
    obtain ⟨name, qualifier⟩ := called
    rw [Option.bind_some]
    dsimp only
    by_cases hname : name = ""
    · rw [if_pos (by simpa using hname)]
      constructor
      · rintro ⟨c, habsurd, -⟩
        cases habsurd
      · rintro ⟨hne, _, hcalled⟩
        cases hcalled
        exact (hne hname).elim
    · rw [if_neg (by simpa using hname)]
      constructor
      · rintro ⟨c, hc, rfl⟩
        obtain rfl := Option.some.inj hc
        exact ⟨hname, qualifier, rfl⟩
      · rintro ⟨-, _, hcalled⟩
        cases hcalled
        exact ⟨_, rfl, rfl⟩

/-- The recorded call has the name that the place calls, whatever the scope. -/
lemma exists_ownCall?_iff : (∃ c, ownCall? scope p = some c ∧ c.callee = n) ↔ Calls p n := by
  simp only [ownCall?, Option.bind_eq_some_iff, Calls]
  constructor
  · rintro ⟨c, ⟨callee, hcallee, hc⟩, hn⟩
    obtain ⟨hne, hnames⟩ := (exists_callSite?_iff callee p.line).mp ⟨c, hc, hn⟩
    exact ⟨hne, callee, hcallee, hnames⟩
  · rintro ⟨hne, callee, hcallee, hnames⟩
    obtain ⟨c, hc, hn⟩ := (exists_callSite?_iff callee p.line).mpr ⟨hne, hnames⟩
    exact ⟨c, ⟨callee, hcallee, hc⟩, hn⟩

end

end ScriptSurvey.Extraction
