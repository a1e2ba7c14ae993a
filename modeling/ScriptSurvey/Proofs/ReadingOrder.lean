import Mathlib.Data.List.Perm.Basic
import ScriptSurvey.Proofs.ReadPlaces

/-!
# The order of reading

`readPlaces` lists the places that are read, each before the places inside it. Some places close what
is read inside them off from what is around them, as a class does with its members; `around` is the
nearest of them around a place, and `within` lists the places that belong to one of them. Every place
that is read belongs to one of them or to none (`readPlaces_perm`), and what is passed up until the
next closing place is what the places of `within` have (`flatMap_within`).
-/
namespace ScriptSurvey.Extraction

open Syntax (Node Place Kind)

/-! ## Comparing places -/

mutual

def decEqNode : (a b : Node) → Decidable (a = b)
  | ⟨label, named, missing, silent, field, text, startRow, endRow, children⟩,
    ⟨label', named', missing', silent', field', text', startRow', endRow', children'⟩ =>
    have := decEqNodes children children'
    decidable_of_iff (label = label' ∧ named = named' ∧ missing = missing' ∧ silent = silent' ∧
      field = field' ∧ text = text' ∧ startRow = startRow' ∧ endRow = endRow' ∧
      children = children') (by rw [Node.mk.injEq])

def decEqNodes : (a b : List Node) → Decidable (a = b)
  | [], [] => isTrue rfl
  | [], _ :: _ => isFalse nofun
  | _ :: _, [] => isFalse nofun
  | a :: as, b :: bs =>
    have := decEqNode a b
    have := decEqNodes as bs
    decidable_of_iff (a = b ∧ as = bs) (by rw [List.cons.injEq])

end

instance : DecidableEq Node := decEqNode

deriving instance DecidableEq for Place

/-! ## Places in the order of reading -/

section

variable {p q r : Place}

lemma sizeOf_of_mem_readChildren (h : r ∈ readChildren p) : sizeOf r.node < sizeOf p.node :=
  Place.sizeOf_children (mem_children_of_mem_readChildren h)

def readPlaces (p : Place) : List Place :=
  p :: (readChildren p).attach.flatMap fun ⟨r, _⟩ => readPlaces r
termination_by sizeOf p.node
decreasing_by exact sizeOf_of_mem_readChildren ‹_›

lemma readPlaces_eq (p : Place) : readPlaces p = p :: (readChildren p).flatMap readPlaces := by
  conv_lhs => rw [readPlaces]
  simp only [List.flatMap_subtype, List.unattach_attach]

/-- What holds of a place when it holds of its children holds of every place. -/
lemma children_induction {motive : Place → Prop}
    (step : ∀ p, (∀ r ∈ p.children, motive r) → motive p) (p : Place) : motive p := by
  induction hsize : sizeOf p.node using Nat.strongRecOn generalizing p with
  | _ size ih =>
    exact step p fun r hr => ih _ (hsize ▸ Place.sizeOf_children hr) r rfl

/-- What holds of a place when it holds of all places that are read in it holds of every place. -/
lemma reading_induction {motive : Place → Prop}
    (step : ∀ p, (∀ r ∈ readChildren p, motive r) → motive p) (p : Place) : motive p :=
  children_induction (fun p ih => step p fun r hr => ih r (mem_children_of_mem_readChildren hr)) p

lemma mem_readPlaces_iff : q ∈ readPlaces p ↔ Reads p q := by
  constructor
  · induction p using reading_induction with
    | step p ih =>
      rw [readPlaces_eq, List.mem_cons, List.mem_flatMap]
      rintro (rfl | ⟨r, hr, hq⟩)
      · exact .here q
      · exact .inside hr (ih r hr hq)
  · intro h
    induction h with
    | here p =>
      rw [readPlaces_eq]
      exact List.mem_cons_self
    | inside child _ ih =>
      rw [readPlaces_eq]
      exact List.mem_cons_of_mem _ (List.mem_flatMap.mpr ⟨_, child, ih⟩)

end

/-! ## Closing places -/

/-- The nearest place around a place that closes what is inside it. -/
def around (closes : Place → Bool) (p : Place) : Option Place :=
  (enclosingPlaces p.above).find? closes

/-- The places that are read inside a closing place and belong to no closer one. -/
def within (closes : Place → Bool) (p : Place) : List Place :=
  (readPlaces p).filter fun q => decide (around closes q = some p)

section

variable {closes : Place → Bool} {p q r : Place}

lemma enclosingPlaces_of_mem_children (h : r ∈ p.children) :
    enclosingPlaces r.above = p :: enclosingPlaces p.above := by
  rw [above_of_mem_children h]
  rfl

lemma around_of_mem_children (h : r ∈ p.children) :
    around closes r = if closes p = true then some p else around closes p := by
  rw [around, enclosingPlaces_of_mem_children h, List.find?_cons]
  cases closes p <;> rfl

lemma around_of_mem_readChildren (h : r ∈ readChildren p) :
    around closes r = if closes p = true then some p else around closes p :=
  around_of_mem_children (mem_children_of_mem_readChildren h)

lemma length_above_of_mem_children (h : r ∈ p.children) :
    r.above.length = p.above.length + 1 := by
  rw [above_of_mem_children h, List.length_cons]

lemma length_lt_of_mem_enclosingPlaces {above : List (Node × List Node)}
    (h : q ∈ enclosingPlaces above) : q.above.length < above.length := by
  induction above with
  | nil => cases h
  | cons outer rest ih =>
    rcases List.mem_cons.mp h with rfl | h
    · exact Nat.lt_succ_self _
    · exact Nat.lt_succ_of_lt (ih h)

lemma length_lt_of_around (h : around closes p = some q) : q.above.length < p.above.length :=
  length_lt_of_mem_enclosingPlaces (List.mem_of_find?_eq_some h)

/-- Reading a place does not leave it: what is around a place read inside is around the place as
well, or is no further out than the place. -/
lemma Reads.around (h : Reads p q) : around closes q = around closes p ∨
    ∃ c, Extraction.around closes q = some c ∧ p.above.length ≤ c.above.length := by
  induction h with
  | here p => exact Or.inl rfl
  | @inside p r q child _ ih =>
    have hlength := length_above_of_mem_children (mem_children_of_mem_readChildren child)
    rcases ih with hsame | ⟨c, hc, hle⟩
    · rw [hsame, around_of_mem_readChildren child]
      split_ifs
      · exact Or.inr ⟨p, rfl, Nat.le_refl _⟩
      · exact Or.inl rfl
    · exact Or.inr ⟨c, hc, by omega⟩

lemma around_ne_of_closes (hp : closes p = true) (hr : r ∈ readChildren p)
    (hq : q ∈ readPlaces r) : around closes q ≠ around closes p := by
  have hr' : around closes r = some p := by rw [around_of_mem_readChildren hr, if_pos hp]
  have hlength := length_above_of_mem_children (mem_children_of_mem_readChildren hr)
  intro hsame
  have hread : Reads r q := mem_readPlaces_iff.mp hq
  rcases hread.around with hq' | ⟨c, hc, hle⟩
  · have := length_lt_of_around (hsame.symm.trans (hq'.trans hr'))
    omega
  · have := length_lt_of_around (hsame.symm.trans hc)
    omega

/-- The places that are read in a place and enclosed like it. -/
def beside (closes : Place → Bool) (p : Place) : List Place :=
  (readPlaces p).filter fun q => decide (around closes q = around closes p)

lemma beside_eq (closes : Place → Bool) (p : Place) :
    beside closes p =
      p :: if closes p = true then [] else (readChildren p).flatMap (beside closes) := by
  rw [beside, readPlaces_eq, List.filter_cons, if_pos (decide_eq_true rfl), List.filter_flatMap]
  congr 1
  split_ifs with hp
  · rw [List.flatMap_eq_nil_iff]
    intro r hr
    rw [List.filter_eq_nil_iff]
    intro q hq hsame
    exact around_ne_of_closes hp hr hq (of_decide_eq_true hsame)
  · refine List.flatMap_congr fun r hr => ?_
    rw [beside, around_of_mem_readChildren hr, if_neg hp]

lemma within_eq (hp : closes p = true) :
    within closes p = (readChildren p).flatMap (beside closes) := by
  have hself : around closes p ≠ some p := fun h => Nat.lt_irrefl _ (length_lt_of_around h)
  rw [within, readPlaces_eq, List.filter_cons_of_neg (by simpa using hself), List.filter_flatMap]
  refine List.flatMap_congr fun r hr => ?_
  rw [beside, around_of_mem_readChildren hr, if_pos hp]

/-- Every place that is read belongs to one closing place that is read, or to none of them. By
induction on the reading. -/
theorem readPlaces_perm (closes : Place → Bool) (p : Place) :
    (readPlaces p).Perm
      (((readPlaces p).filter closes).flatMap (within closes) ++ beside closes p) := by
  induction p using reading_induction with
  | step p ih =>
    have hinside : ((readChildren p).flatMap readPlaces).Perm
        ((readChildren p).flatMap (fun r => ((readPlaces r).filter closes).flatMap (within closes))
          ++ (readChildren p).flatMap (beside closes)) :=
      (List.Perm.flatMap_left _ ih).trans (List.flatMap_append_perm _ _ _).symm
    rw [beside_eq, readPlaces_eq, List.filter_cons, List.filter_flatMap]
    -- what the children leave belongs to `p` when it closes, and is left by `p` when it does not
    split_ifs with hp
    · rw [List.flatMap_cons, List.flatMap_assoc, within_eq hp]
      exact ((hinside.trans List.perm_append_comm).cons p).trans (List.perm_append_singleton _ _).symm
    · rw [List.flatMap_assoc]
      exact (hinside.cons p).trans List.perm_middle.symm

/-! ## What is passed up -/

/-- Something that places have of their own and pass up to the closing place around them. -/
def PassedUp {α : Type} (closes : Place → Bool) (own passed : Place → List α) : Prop :=
  ∀ p, passed p = own p ++ if closes p = true then [] else (readChildren p).flatMap passed

variable {α : Type} {own passed : Place → List α}

/-- By induction on the reading: what a place passes up is what the places inside have that are
enclosed alike. -/
lemma PassedUp.eq_flatMap (h : PassedUp closes own passed) (p : Place) :
    passed p = (beside closes p).flatMap own := by
  induction p using reading_induction with
  | step p ih =>
    rw [h p, beside_eq, List.flatMap_cons]
    split_ifs
    · rfl
    · rw [List.flatMap_assoc, List.flatMap_congr ih]

/-- A closing place is passed what the places have that belong to it. -/
theorem PassedUp.flatMap_within (h : PassedUp closes own passed) (hp : closes p = true) :
    (readChildren p).flatMap passed = (within closes p).flatMap own := by
  rw [within_eq hp, List.flatMap_assoc]
  exact List.flatMap_congr fun r _ => h.eq_flatMap r

end

end ScriptSurvey.Extraction
