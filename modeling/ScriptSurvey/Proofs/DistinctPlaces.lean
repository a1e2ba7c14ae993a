import Mathlib.Data.List.Nodup
import ScriptSurvey.Proofs.ReadingOrder

/-!
# Places are listed once

A place is told from every other one by the nodes above it and the siblings before it, so a list that
goes down a tree (`Descends`), whether it takes all children or those that are read, has no place
twice.
-/
namespace ScriptSurvey.Extraction

open Syntax (Node Place Kind)

/-! ## All places in a place -/

/-- The places in a place in preorder, itself first. -/
def placesIn (p : Place) : List Place := Place.preorder p.above p.before p.node

lemma preorderAmong_eq_flatMap (above : List (Node × List Node)) (before nodes : List Node) :
    Place.preorderAmong above before nodes = (Place.siblings above before nodes).flatMap placesIn := by
  induction nodes generalizing before with
  | nil => rw [Place.preorderAmong]; rfl
  | cons node rest ih => rw [Place.preorderAmong, Place.siblings, List.flatMap_cons, ← ih]; rfl

lemma placesIn_eq (p : Place) : placesIn p = p :: p.children.flatMap placesIn := by
  obtain ⟨node, before, above⟩ := p
  obtain ⟨label, named, missing, silent, field, text, startRow, endRow, children⟩ := node
  rw [placesIn, Place.preorder, preorderAmong_eq_flatMap]
  rfl

/-! ## The places around a place -/

section

variable {p q r : Place}

/-- A place and those around it, the innermost first. -/
def spine (p : Place) : List Place := p :: enclosingPlaces p.above

lemma spine_of_mem_children (h : r ∈ p.children) : spine r = r :: spine p := by
  rw [spine, enclosingPlaces_of_mem_children h, spine]

lemma pairwise_enclosingPlaces (above : List (Node × List Node)) :
    (enclosingPlaces above).Pairwise fun a b => b.above.length < a.above.length := by
  induction above with
  | nil => exact List.Pairwise.nil
  | cons outer rest ih => exact ih.cons fun a ha => length_lt_of_mem_enclosingPlaces ha

lemma pairwise_spine (p : Place) :
    (spine p).Pairwise fun a b => b.above.length < a.above.length :=
  (pairwise_enclosingPlaces p.above).cons fun _ ha => length_lt_of_mem_enclosingPlaces ha

lemma eq_of_mem_spine (hp : p ∈ spine q) (hr : r ∈ spine q)
    (hdepth : p.above.length = r.above.length) : p = r := by
  have hnodup : ((spine q).map fun a => a.above.length).Nodup :=
    List.pairwise_map.mpr ((pairwise_spine q).imp Nat.ne_of_gt)
  exact List.inj_on_of_nodup_map hnodup hp hr hdepth

lemma length_le_of_mem_spine (h : p ∈ spine q) : p.above.length ≤ q.above.length := by
  rcases List.mem_cons.mp h with rfl | h
  · exact Nat.le_refl _
  · exact Nat.le_of_lt (length_lt_of_mem_enclosingPlaces h)

/-! ## Children -/

lemma pairwise_siblings (above : List (Node × List Node)) (before nodes : List Node) :
    (Place.siblings above before nodes).Pairwise fun a b => a.before.length < b.before.length := by
  have hbehind (before nodes : List Node) :
      ∀ a ∈ Place.siblings above before nodes, before.length ≤ a.before.length := by
    induction nodes generalizing before with
    | nil => simp [Place.siblings]
    | cons node rest ih =>
      intro a ha
      rcases List.mem_cons.mp ha with rfl | ha
      · exact Nat.le_refl _
      · exact Nat.le_trans (Nat.le_succ _) (ih (node :: before) a ha)
  induction nodes generalizing before with
  | nil => exact List.Pairwise.nil
  | cons node rest ih =>
    exact (ih (node :: before)).cons fun a ha => hbehind (node :: before) rest a ha

lemma nodup_children (p : Place) : p.children.Nodup :=
  (pairwise_siblings _ _ _).imp fun h => by
    rintro rfl
    exact Nat.lt_irrefl _ h

lemma nodup_toList {α : Type} (o : Option α) : o.toList.Nodup := by
  cases o with
  | none => exact List.nodup_nil
  | some a => exact List.nodup_singleton a

lemma field_of_field? {name : String} (h : p.field? name = some r) : r.node.field = name := by
  have hfound := List.find?_some h
  simpa using hfound

lemma nodup_functionParts (p : Place) : (functionParts p).Nodup := by
  refine (nodup_toList _).append (nodup_toList _) fun r hparameters hbody => ?_
  have hfield := field_of_field? (Option.mem_toList.mp hbody)
  rcases Option.or_eq_some_iff.mp (Option.mem_toList.mp hparameters) with h | ⟨-, h⟩ <;>
  · rw [field_of_field? h] at hfield
    simp at hfield

lemma nodup_readChildren (p : Place) : (readChildren p).Nodup := by
  unfold readChildren
  split
  case h_5 | h_6 | h_7 =>
    split_ifs
    · exact nodup_toList _
    · exact nodup_children p
  case h_8 => exact nodup_children p
  all_goals exact nodup_functionParts p

end

/-! ## Lists that go down -/

/-- A list of places that goes from each place to some of its children. -/
structure Descends (places next : Place → List Place) : Prop where
  eq : ∀ p, places p = p :: (next p).flatMap places
  child : ∀ p, ∀ r ∈ next p, r ∈ p.children
  distinct : ∀ p, (next p).Nodup

namespace Descends

variable {places next : Place → List Place}

lemma spine_subset (h : Descends places next) {p q : Place} (hq : q ∈ places p) :
    spine p ⊆ spine q := by
  induction p using children_induction with
  | step p ih =>
    rw [h.eq, List.mem_cons, List.mem_flatMap] at hq
    rcases hq with rfl | ⟨r, hr, hq⟩
    · exact List.Subset.refl _
    · have hinner := ih r (h.child p r hr) hq
      rw [spine_of_mem_children (h.child p r hr)] at hinner
      exact fun c hc => hinner (List.mem_cons_of_mem r hc)

lemma mem_spine (h : Descends places next) {p q : Place} (hq : q ∈ places p) : p ∈ spine q :=
  h.spine_subset hq List.mem_cons_self

/-- The lists of two children have no place in common. -/
lemma nodup_flatMap (h : Descends places next) {p : Place} {ps : List Place} (hps : ps.Nodup)
    (hchild : ∀ r ∈ ps, r ∈ p.children) (hplaces : ∀ r ∈ ps, (places r).Nodup) :
    (ps.flatMap places).Nodup := by
  refine List.nodup_flatMap.mpr ⟨hplaces, hps.imp_of_mem ?_⟩
  intro r r' hr hr' hne q hq hq'
  refine hne (eq_of_mem_spine (h.mem_spine hq) (h.mem_spine hq') ?_)
  rw [length_above_of_mem_children (hchild r hr), length_above_of_mem_children (hchild r' hr')]

/-- By induction on the place. -/
theorem nodup (h : Descends places next) (p : Place) : (places p).Nodup := by
  induction p using children_induction with
  | step p ih =>
    rw [h.eq, List.nodup_cons]
    refine ⟨?_, h.nodup_flatMap (h.distinct p) (h.child p) fun r hr => ih r (h.child p r hr)⟩
    rw [List.mem_flatMap]
    rintro ⟨r, hr, hp⟩
    have := length_le_of_mem_spine (h.mem_spine hp)
    have := length_above_of_mem_children (h.child p r hr)
    omega

end Descends

lemma descends_placesIn : Descends placesIn Place.children :=
  ⟨placesIn_eq, fun _ _ hr => hr, nodup_children⟩

lemma descends_readPlaces : Descends readPlaces readChildren :=
  ⟨readPlaces_eq, fun _ _ hr => mem_children_of_mem_readChildren hr, nodup_readChildren⟩

end ScriptSurvey.Extraction
