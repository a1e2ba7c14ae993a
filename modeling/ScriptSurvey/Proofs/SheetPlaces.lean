import ScriptSurvey.Proofs.TreeYields

/-!
# The places of a sheet

Each list of a sheet, place by place: what is declared, called and bound are the contributions of
the places that are read, in the order of reading. Every named class has an entry with the members
of the places that belong to it, every measured function one with their tokens and calls.
-/
namespace ScriptSurvey.Extraction

open Syntax (Node Place Kind FlowToken)

def yieldInside (p : Place) : Harvest := Harvest.concat ((readChildren p).map yieldOf)

/-! ## Lists of a harvest -/

/-- A list of a harvest that is put together part by part. -/
structure Joined {α : Type} (list : Harvest → List α) : Prop where
  empty : list Harvest.empty = []
  append : ∀ a b : Harvest, list (a ++ b) = list a ++ list b

namespace Joined

variable {α : Type} {list : Harvest → List α} {own : Place → List α} {closes : Place → Bool}

lemma yieldInside (h : Joined list) (p : Place) :
    list (yieldInside p) = (readChildren p).flatMap fun r => list (yieldOf r) := by
  rw [Extraction.yieldInside]
  induction readChildren p with
  | nil => exact h.empty
  | cons r rs ih => exact (h.append _ _).trans (congrArg (list (yieldOf r) ++ ·) ih)

/-- By induction on the reading: a list to which every place adds its own. -/
lemma flatMap_readPlaces (h : Joined list)
    (hown : ∀ p, list (yieldOf p) = own p ++ list (Extraction.yieldInside p)) (p : Place) :
    list (yieldOf p) = (readPlaces p).flatMap own := by
  induction p using reading_induction with
  | step p ih =>
    rw [hown, h.yieldInside, readPlaces_eq, List.flatMap_cons, List.flatMap_assoc,
      List.flatMap_congr ih]

lemma flatMap_within (h : Joined list)
    (hown : ∀ p, list (yieldOf p) =
      own p ++ if closes p = true then [] else list (Extraction.yieldInside p))
    {p : Place} (hp : closes p = true) :
    list (Extraction.yieldInside p) = (within closes p).flatMap own := by
  have hpassed : PassedUp closes own fun p => list (yieldOf p) := fun p => by
    dsimp only
    rw [hown, h.yieldInside]
  rw [h.yieldInside, hpassed.flatMap_within hp]

end Joined

lemma joined_declarations : Joined Harvest.declarations := ⟨rfl, fun _ _ => rfl⟩
lemma joined_classes : Joined Harvest.classes := ⟨rfl, fun _ _ => rfl⟩
lemma joined_calls : Joined Harvest.calls := ⟨rfl, fun _ _ => rfl⟩
lemma joined_bindings : Joined Harvest.bindings := ⟨rfl, fun _ _ => rfl⟩
lemma joined_functions : Joined Harvest.functions := ⟨rfl, fun _ _ => rfl⟩
lemma joined_flow : Joined Harvest.flow := ⟨rfl, fun _ _ => rfl⟩
lemma joined_callKeys : Joined Harvest.callKeys := ⟨rfl, fun _ _ => rfl⟩
lemma joined_methods : Joined Harvest.methods := ⟨rfl, fun _ _ => rfl⟩
lemma joined_properties : Joined Harvest.properties := ⟨rfl, fun _ _ => rfl⟩

lemma flatMap_filter {α β : Type} (keeps : α → Bool) (f : α → List β) (l : List α) :
    (l.filter keeps).flatMap f = l.flatMap fun a => if keeps a = true then f a else [] := by
  induction l with
  | nil => rfl
  | cons a l ih =>
    rw [List.flatMap_cons, List.filter_cons, ← ih]
    split_ifs <;> rfl

/-! ## Members and bodies -/

def methodsOf (c : Place) : List (String × Nat) :=
  (within isNamedClass c).filterMap fun q => (methodAt? q).map fun d => (d.name, d.line)

def propertiesOf (c : Place) : List String := (within isNamedClass c).filterMap propertyAt?

def flowOf (f : Place) : List FlowToken := (within isMeasured f).filterMap (·.node.flowToken?)

def keysOf (f : Place) : List String :=
  (within isMeasured f).filterMap fun q => (callAt? q).map (·.key)

section

variable {p : Place}

lemma yieldInside_methods (hp : isNamedClass p = true) : (yieldInside p).methods = methodsOf p := by
  rw [methodsOf, List.filterMap_eq_flatMap_toList]
  exact joined_methods.flatMap_within (fun p => by rw [yieldOf_eq]; rfl) hp

lemma yieldInside_properties (hp : isNamedClass p = true) :
    (yieldInside p).properties = propertiesOf p := by
  rw [propertiesOf, List.filterMap_eq_flatMap_toList]
  exact joined_properties.flatMap_within (fun p => by rw [yieldOf_eq]; rfl) hp

lemma yieldInside_flow (hp : isMeasured p = true) : (yieldInside p).flow = flowOf p := by
  rw [flowOf, List.filterMap_eq_flatMap_toList]
  exact joined_flow.flatMap_within (fun p => by rw [yieldOf_eq]; rfl) hp

lemma yieldInside_callKeys (hp : isMeasured p = true) : (yieldInside p).callKeys = keysOf p := by
  rw [keysOf, List.filterMap_eq_flatMap_toList]
  exact joined_callKeys.flatMap_within (fun p => by rw [yieldOf_eq]; rfl) hp

end

/-! ## The lists of a sheet -/

section

variable (path : Path) (language : Language) (lineCount : Nat) (tree : Node)

theorem gather_declarations : (gather path language lineCount tree).declarations =
    (readPlaces (Place.ofRoot tree)).filterMap declarationAt? := by
  rw [List.filterMap_eq_flatMap_toList, gather, harvest_tree]
  exact joined_declarations.flatMap_readPlaces (fun p => by rw [yieldOf_eq]; rfl) _

theorem gather_calls : (gather path language lineCount tree).calls =
    distinctCalls ((readPlaces (Place.ofRoot tree)).filterMap callAt?) := by
  rw [List.filterMap_eq_flatMap_toList, gather, harvest_tree]
  exact congrArg distinctCalls
    (joined_calls.flatMap_readPlaces (fun p => by rw [yieldOf_eq]; rfl) _)

theorem gather_bindings : (gather path language lineCount tree).bindings =
    (readPlaces (Place.ofRoot tree)).flatMap bindingsAt := by
  rw [gather, harvest_tree]
  exact joined_bindings.flatMap_readPlaces (fun p => by rw [yieldOf_eq]; rfl) _

theorem gather_classes : (gather path language lineCount tree).classes =
    ((readPlaces (Place.ofRoot tree)).filter isNamedClass).map fun c =>
      classInfoOf c (methodsOf c) (propertiesOf c) := by
  rw [List.map_eq_flatMap, flatMap_filter, gather, harvest_tree]
  refine joined_classes.flatMap_readPlaces (fun p => ?_) _
  rw [yieldOf_eq]
  split_ifs with hp
  · rw [← yieldInside_methods hp, ← yieldInside_properties hp, contribute, if_pos hp]
    rfl
  · rw [contribute, if_neg hp]
    rfl

theorem gather_functions : (gather path language lineCount tree).functions =
    ((readPlaces (Place.ofRoot tree)).filter isMeasured).map fun f =>
      factsOf f (flowOf f) (keysOf f) := by
  rw [List.map_eq_flatMap, flatMap_filter, gather, harvest_tree]
  refine joined_functions.flatMap_readPlaces (fun p => ?_) _
  rw [yieldOf_eq]
  split_ifs with hp
  · rw [← yieldInside_flow hp, ← yieldInside_callKeys hp, contribute, if_pos hp]
    rfl
  · rw [contribute, if_neg hp]
    rfl

end

end ScriptSurvey.Extraction
