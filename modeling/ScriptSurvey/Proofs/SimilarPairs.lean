import Mathlib.Data.Fintype.Prod
import Mathlib.Data.List.FinRange
import Mathlib.Data.Sym.Sym2
import ScriptSurvey.Proofs.ScopedReports
import ScriptSurvey.Proofs.SimilarityScores

/-!
# Pairs of similar functions

A report compares every function with those after it, so every two of them meet once. Whether they
are reported and with what score is the same from either side: another order of the sheets turns
pairs around and moves them, but it adds none and loses none.
-/
namespace ScriptSurvey

/-! ## Pairs of a list -/

section

variable {α β : Type}

def orderedPairs : List α → List (α × α)
  | [] => []
  | a :: l => l.map (a, ·) ++ orderedPairs l

lemma orderedPairs_map (f : α → β) (l : List α) :
    orderedPairs (l.map f) = (orderedPairs l).map (Prod.map f f) := by
  induction l with
  | nil => rfl
  | cons a l ih => simp [orderedPairs, ih]

lemma orderedPairs_filter (p : α → Bool) (l : List α) :
    orderedPairs (l.filter p) = (orderedPairs l).filter fun x => p x.1 && p x.2 := by
  induction l with
  | nil => rfl
  | cons a l ih =>
    rw [orderedPairs, List.filter_append, ← ih, List.filter_map, List.filter_cons]
    split_ifs with ha
    · simp [orderedPairs, Function.comp_def, ha]
    · simp [Function.comp_def, ha]

section

variable [LinearOrder α] {l : List α}

/-- By induction on the list. The first element is below all others. -/
lemma mem_orderedPairs (h : l.Pairwise (· < ·)) {x : α × α} :
    x ∈ orderedPairs l ↔ x.1 ∈ l ∧ x.2 ∈ l ∧ x.1 < x.2 := by
  induction l with
  | nil => simp [orderedPairs]
  | cons a l ih =>
    obtain ⟨hfirst, hrest⟩ := List.pairwise_cons.mp h
    obtain ⟨b, c⟩ := x
    rw [orderedPairs, List.mem_append, ih hrest]
    simp only [List.mem_map, Prod.mk.injEq, List.mem_cons]
    constructor
    · rintro (⟨c, hc, rfl, rfl⟩ | ⟨hb, hc, hlt⟩)
      · exact ⟨.inl rfl, .inr hc, hfirst c hc⟩
      · exact ⟨.inr hb, .inr hc, hlt⟩
    · rintro ⟨rfl | hb, rfl | hc, hlt⟩
      · exact absurd hlt (lt_irrefl _)
      · exact .inl ⟨c, hc, rfl, rfl⟩
      · exact absurd hlt (hfirst b hb).asymm
      · exact .inr ⟨hb, hc, hlt⟩

lemma nodup_orderedPairs (h : l.Pairwise (· < ·)) : (orderedPairs l).Nodup := by
  induction l with
  | nil => exact List.nodup_nil
  | cons a l ih =>
    obtain ⟨hfirst, hrest⟩ := List.pairwise_cons.mp h
    have hnodup : l.Nodup := hrest.imp fun hlt => hlt.ne
    refine (hnodup.map (Prod.mk_right_injective a)).append (ih hrest) fun x hx hx' => ?_
    obtain ⟨b, -, rfl⟩ := List.mem_map.mp hx
    exact lt_irrefl a (hfirst a ((mem_orderedPairs hrest).mp hx').1)

end

/-- The pairs of a list are those of its places, the earlier one first. -/
lemma coe_orderedPairs (l : List α) : (↑(orderedPairs l) : Multiset (α × α)) =
    (Finset.univ.filter fun x : Fin l.length × Fin l.length => x.1 < x.2).val.map
      fun x => (l[x.1], l[x.2]) := by
  have hsorted : (List.finRange l.length).Pairwise (· < ·) := List.pairwise_lt_finRange _
  have hplaces : (↑(orderedPairs (List.finRange l.length)) : Multiset _) =
      (Finset.univ.filter fun x : Fin l.length × Fin l.length => x.1 < x.2).val := by
    refine (Multiset.Nodup.ext (Multiset.coe_nodup.mpr (nodup_orderedPairs hsorted))
      (Finset.nodup _)).mpr fun x => ?_
    rw [Multiset.mem_coe, mem_orderedPairs hsorted]
    simp
  have hlist : l = (List.finRange l.length).map (l[·]) := by simp
  conv_lhs => rw [hlist, orderedPairs_map, ← Multiset.map_coe, hplaces]
  rfl

end

/-! ## Functions that are compared -/

def Project.functions (project : Project) : List (FactSheet × FunctionFacts) :=
  project.sheets.flatMap fun s => s.functions.map (s, ·)

namespace Similarity

@[mk_iff]
structure IsCompared (project : Project) (scope : Path) (x : FactSheet × FunctionFacts) : Prop where
  inScope : x.1.path.startsWith scope = true
  handWritten : FileRole.isGenerated (project.relative x.1.path).toString = false
  named : x.2.name.isSome = true
  long : 3 ≤ x.2.flow.length

def shapeOf (project : Project) (x : FactSheet × FunctionFacts) : Signature :=
  ⟨x.2.displayName, project.relative x.1.path, x.2.line, x.2.params, x.2.isAsync, x.2.flow,
    x.2.calls⟩

/-- The two functions are reported as similar: neither are they of one name in one file, nor do they
score too low. -/
@[mk_iff]
structure AreSimilar (project : Project) (scope : Path) (threshold : ℕ)
    (x y : FactSheet × FunctionFacts) : Prop where
  left : IsCompared project scope x
  right : IsCompared project scope y
  apart : ¬ ((shapeOf project x).file = (shapeOf project y).file ∧
    (shapeOf project x).bareName = (shapeOf project y).bareName)
  close : threshold ≤ score (shapeOf project x) (shapeOf project y)

section

variable (project : Project) (scope : Path) (threshold : ℕ) (x y : FactSheet × FunctionFacts)

instance : Decidable (IsCompared project scope x) := decidable_of_iff' _ (isCompared_iff ..)

instance : Decidable (AreSimilar project scope threshold x y) :=
  decidable_of_iff' _ (areSimilar_iff ..)

def similarPlaces : Finset (Fin project.functions.length × Fin project.functions.length) :=
  Finset.univ.filter fun p => p.1 < p.2 ∧
    AreSimilar project scope threshold project.functions[p.1] project.functions[p.2]

def Pair.unordered (pair : Pair) : ℕ × Sym2 FunctionRef := (pair.score, s(pair.first, pair.second))

def pairAt : Pair :=
  ⟨score (shapeOf project x) (shapeOf project y), (shapeOf project x).ref, (shapeOf project y).ref⟩

lemma filter_filterMap_of? (s : FactSheet) :
    (s.functions.filterMap (Signature.of? · (project.relative s.path))).filter
        (fun g => minTokens ≤ g.flow.length) =
      ((s.functions.map (s, ·)).filter fun x => x.2.name.isSome && decide (3 ≤ x.2.flow.length)).map
        (shapeOf project) := by
  rw [List.filter_filterMap, ← List.filterMap_eq_map, List.filterMap_filter, List.filterMap_map]
  refine List.filterMap_congr fun f _ => ?_
  cases hname : f.name with
  | none => simp [Signature.of?, hname]
  | some name =>
    by_cases hlong : 3 ≤ f.flow.length <;> simp [Signature.of?, hname, shapeOf, minTokens, hlong]

lemma signatures_eq : signatures project scope =
    (project.functions.filter fun x => IsCompared project scope x).map (shapeOf project) := by
  have hchosen : (project.inScope scope).filter
        (fun s => !FileRole.isGenerated (project.relative s.path).toString) =
      project.sheets.filter fun s => s.path.startsWith scope &&
        !FileRole.isGenerated (project.relative s.path).toString := by
    rw [Project.inScope, List.filter_filter]
    exact List.filter_congr fun s _ => Bool.and_comm _ _
  rw [signatures, hchosen, List.flatMap_congr fun s _ => filter_filterMap_of? project s,
    ← List.map_flatMap, flatMap_filter_of_shared (q := fun x => x.1.path.startsWith scope &&
      !FileRole.isGenerated (project.relative x.1.path).toString), ← List.filter_flatMap,
    List.filter_filter]
  · congr 1
    refine List.filter_congr fun x _ => ?_
    rw [Bool.eq_iff_iff, decide_eq_true_eq, isCompared_iff]
    simp [and_assoc]
  · intro s _ x hx
    obtain ⟨f, -, rfl⟩ := List.mem_map.mp (List.mem_filter.mp hx).1
    rfl

lemma comparable_iff (a b : Signature) :
    comparable a b = true ↔ ¬ (a.file = b.file ∧ a.bareName = b.bareName) := by
  rw [comparable, Bool.or_eq_true, bne_iff_ne, bne_iff_ne, not_and_or]

lemma pairOf?_eq (a b : Signature) : pairOf? threshold a b =
    if ¬ (a.file = b.file ∧ a.bareName = b.bareName) ∧ threshold ≤ score a b then
      some ⟨score a b, a.ref, b.ref⟩ else none := by
  simp only [pairOf?, comparable_iff, ite_and]

lemma pairsFrom_eq (l : List Signature) :
    pairsFrom threshold l = (orderedPairs l).filterMap fun p => pairOf? threshold p.1 p.2 := by
  induction l with
  | nil => rfl
  | cons a l ih => rw [pairsFrom, orderedPairs, List.filterMap_append, List.filterMap_map, ih]; rfl

lemma pairsFrom_signatures : pairsFrom threshold (signatures project scope) =
    ((orderedPairs project.functions).filter fun p =>
      AreSimilar project scope threshold p.1 p.2).map fun p => pairAt project p.1 p.2 := by
  rw [pairsFrom_eq, signatures_eq, orderedPairs_map, orderedPairs_filter, List.filterMap_map,
    List.filterMap_filter, ← List.filterMap_eq_map, List.filterMap_filter]
  refine List.filterMap_congr fun p _ => ?_
  simp only [Function.comp_apply, Prod.map_fst, Prod.map_snd, Bool.and_eq_true, decide_eq_true_eq,
    areSimilar_iff, pairOf?_eq, ite_and]
  rfl

end

/-! ## Another order of the sheets -/

section

variable {threshold : ℕ}

lemma unordered_pairOf? (threshold : ℕ) (a b : Signature) :
    (pairOf? threshold a b).map Pair.unordered = (pairOf? threshold b a).map Pair.unordered := by
  simp only [pairOf?_eq, score_comm a b, eq_comm (a := a.file), eq_comm (a := a.bareName)]
  split_ifs
  · simp [Pair.unordered, Sym2.eq_swap]
  · rfl

/-- By induction on the permutation. Where two functions change places, the pair of both turns
around. -/
lemma perm_pairsFrom {l l' : List Signature} (h : l.Perm l') :
    ((pairsFrom threshold l).map Pair.unordered).Perm
      ((pairsFrom threshold l').map Pair.unordered) := by
  induction h with
  | nil => exact .refl _
  | cons a h ih =>
    rw [pairsFrom, pairsFrom, List.map_append, List.map_append]
    exact ((h.filterMap _).map _).append ih
  | swap a b l =>
    have hturn := unordered_pairOf? threshold b a
    simp only [pairsFrom, List.map_append, List.filterMap_cons]
    cases hba : pairOf? threshold b a with
    | none =>
      rw [hba, Option.map_none, eq_comm, Option.map_eq_none_iff] at hturn
      rw [hturn]
      exact List.perm_append_comm_assoc ..
    | some pair =>
      rw [hba, Option.map_some, eq_comm, Option.map_eq_some_iff] at hturn
      obtain ⟨pair', hab, hturn⟩ := hturn
      rw [hab]
      simp only [List.map_cons, List.cons_append, hturn]
      exact (List.perm_append_comm_assoc ..).cons _
  | trans _ _ ih ih' => exact ih.trans ih'

lemma perm_signatures {project : Project} (scope : Path) {sheets : List FactSheet}
    (h : sheets.Perm project.sheets) :
    (signatures { project with sheets } scope).Perm (signatures project scope) :=
  ((h.filter _).filter _).flatMap_right _

/-! ## A higher threshold -/

lemma pairOf?_of_le {higher : ℕ} (h : threshold ≤ higher) (a b : Signature) :
    pairOf? higher a b = (pairOf? threshold a b).filter (higher ≤ ·.score) := by
  rw [pairOf?_eq, pairOf?_eq]
  by_cases hfound : ¬ (a.file = b.file ∧ a.bareName = b.bareName) ∧ threshold ≤ score a b
  · rw [if_pos hfound, Option.filter_some]
    simp only [decide_eq_true_eq, hfound.1, not_false_eq_true, true_and]
  · rw [if_neg hfound, if_neg fun hhigh => hfound ⟨hhigh.1, h.trans hhigh.2⟩, Option.filter_none]

lemma pairsFrom_of_le {higher : ℕ} (h : threshold ≤ higher) (l : List Signature) :
    pairsFrom higher l = (pairsFrom threshold l).filter (higher ≤ ·.score) := by
  rw [pairsFrom_eq, pairsFrom_eq, List.filter_filterMap]
  exact List.filterMap_congr fun p _ => pairOf?_of_le h p.1 p.2

lemma pairs_of_le {higher : ℕ} (h : threshold ≤ higher) (project : Project) (scope : Path) :
    pairs project scope higher = (pairs project scope threshold).filter (higher ≤ ·.score) := by
  rw [pairs, pairs, pairsFrom_of_le h, pairLe_eq, filter_mergeSort_isLE]

end

section

variable (project : Project) (scope : Path) (threshold : ℕ)

lemma coe_pairs : (↑(pairs project scope threshold) : Multiset Pair) =
    (similarPlaces project scope threshold).val.map fun p =>
      pairAt project project.functions[p.1] project.functions[p.2] := by
  have hsort : (↑(pairs project scope threshold) : Multiset Pair) =
      ↑(pairsFrom threshold (signatures project scope)) :=
    Multiset.coe_eq_coe.mpr (List.mergeSort_perm ..)
  rw [hsort, pairsFrom_signatures, ← Multiset.map_coe, ← Multiset.filter_coe, coe_orderedPairs,
    Multiset.filter_map, Multiset.map_map, similarPlaces, ← Finset.filter_filter]
  rfl

end

/-- When the limit cuts nothing off, a report holds one pair for every two similar functions, and
their number is the total. With the sheets in another order it holds the same pairs, some of them
turned around. With a higher threshold it holds, in the same order, the pairs that reach it. -/
theorem similar_pairs (project : Project) (scope : Path) (threshold limit : ℕ)
    (hlimit : (report project scope threshold limit).total ≤ limit) :
    let found := report project scope threshold limit
    ((↑found.pairs : Multiset Pair) = (similarPlaces project scope threshold).val.map fun p =>
      pairAt project project.functions[p.1] project.functions[p.2]) ∧
    found.total = (similarPlaces project scope threshold).card ∧
    (∀ sheets : List FactSheet, sheets.Perm project.sheets →
      let found' := report { project with sheets } scope threshold limit
      found'.total = found.total ∧
      (found'.pairs.map Pair.unordered).Perm (found.pairs.map Pair.unordered)) ∧
    ∀ higher, threshold ≤ higher →
      (report project scope higher limit).pairs = found.pairs.filter (higher ≤ ·.score) := by
  have hall {project' : Project} {threshold' : ℕ}
      (hle : (pairs project' scope threshold').length ≤ limit) :
      (report project' scope threshold' limit).pairs = pairs project' scope threshold' :=
    List.take_of_length_le hle
  have hlength : (pairs project scope threshold).length ≤ limit := hlimit
  have htotal := congrArg Multiset.card (coe_pairs project scope threshold)
  intro found
  have hfound : found.pairs = pairs project scope threshold := hall hlength
  refine ⟨?_, ?_, fun sheets hsheets => ?_, fun higher hhigher => ?_⟩
  · rw [hfound, coe_pairs]
  · rwa [Multiset.coe_card, Multiset.card_map] at htotal
  · have hperm : ((pairs { project with sheets } scope threshold).map Pair.unordered).Perm
        ((pairs project scope threshold).map Pair.unordered) :=
      ((List.mergeSort_perm ..).map _).trans ((perm_pairsFrom (perm_signatures scope hsheets)).trans
        ((List.mergeSort_perm ..).map _).symm)
    have hsame : (pairs { project with sheets } scope threshold).length =
        (pairs project scope threshold).length := by simpa using hperm.length_eq
    refine ⟨hsame, ?_⟩
    rw [hfound, hall (hsame.trans_le hlength)]
    exact hperm
  · rw [hfound, ← pairs_of_le hhigher]
    refine hall ?_
    rw [pairs_of_le hhigher]
    exact (List.length_filter_le ..).trans hlength

def drain (name owner : Option String) (line : ℕ) : FunctionFacts :=
  ⟨name, owner, .method, line, line + 4, [], false, [.whileLoop, .branch, .leave], []⟩

def sheetOf (names : List String) (functions : List FunctionFacts) : FactSheet :=
  { FactSheet.failed ⟨true, names⟩ .javaScript 40 with
    parseFailed := false
    functions := functions }

/-- Two classes of one file have a method of one name. Elsewhere there are three functions like it,
one without a name and one in a generated file. -/
def queues : Project where
  root := ⟨true, ["app"]⟩
  sheets := [
    sheetOf ["app", "queue.js"] [drain "pop" "Stack" 3, drain "pop" "Queue" 20],
    sheetOf ["app", "log.js"] [drain none none 1, drain "flush" none 9],
    sheetOf ["app", "dist", "log.js"] [drain "flush" none 1]]

def drainShape : Signature := shapeOf queues (queues.sheets[0], drain "pop" "Stack" 3)

lemma card_similarPlaces_queues : (similarPlaces queues queues.root 0).card = 2 := by
  have hplaces : similarPlaces queues queues.root 0 = Finset.univ.filter fun p => p.1 < p.2 ∧
      IsCompared queues queues.root queues.functions[p.1] ∧
      IsCompared queues queues.root queues.functions[p.2] ∧
      ¬ ((shapeOf queues queues.functions[p.1]).file = (shapeOf queues queues.functions[p.2]).file ∧
        (shapeOf queues queues.functions[p.1]).bareName =
          (shapeOf queues queues.functions[p.2]).bareName) :=
    Finset.filter_congr fun p _ => by rw [areSimilar_iff, and_iff_left (Nat.zero_le _)]
  rw [hplaces]
  decide +kernel

/-- Names and places do not enter a score, and all these functions have one body. -/
lemma score_drain {x y : FactSheet × FunctionFacts} (hx : x ∈ queues.functions)
    (hy : y ∈ queues.functions) :
    score (shapeOf queues x) (shapeOf queues y) = score drainShape drainShape := by
  let moved (a : Signature) : Signature :=
    { a with name := drainShape.name, file := drainShape.file, line := drainShape.line }
  have hmoved : ∀ z ∈ queues.functions, moved (shapeOf queues z) = drainShape := by decide +kernel
  calc score (shapeOf queues x) (shapeOf queues y)
      = score (moved (shapeOf queues x)) (moved (shapeOf queues y)) := rfl
    _ = score drainShape drainShape := by rw [hmoved x hx, hmoved y hy]

/-- Both pairs have one score, so with a higher threshold both are reported or none. -/
theorem similar_pairs_queues :
    let found := report queues queues.root 0 9
    let turned := report { queues with sheets := queues.sheets.reverse } queues.root 0 9
    let drained := score drainShape drainShape
    found.total ≤ 9 ∧ found.total = 2 ∧ turned.total = 2 ∧
      (turned.pairs.map Pair.unordered).Perm (found.pairs.map Pair.unordered) ∧
      (∀ p ∈ found.pairs, p.score = drained) ∧
      (report queues queues.root 60 9).pairs = if 60 ≤ drained then found.pairs else [] := by
  intro found turned drained
  have hlimit : found.total ≤ 9 :=
    (List.length_mergeSort _).trans_le ((length_pairsFrom_le _).trans (by decide +kernel))
  obtain ⟨hpairs, htotal, hturned, hhigher⟩ := similar_pairs queues queues.root 0 9 hlimit
  obtain ⟨hsame, hperm⟩ := hturned _ (List.reverse_perm _)
  rw [card_similarPlaces_queues] at htotal
  have hscores : ∀ p ∈ found.pairs, p.score = drained := by
    intro p hp
    rw [← Multiset.mem_coe, hpairs, Multiset.mem_map] at hp
    obtain ⟨places, -, rfl⟩ := hp
    exact score_drain (List.getElem_mem _) (List.getElem_mem _)
  have hfiltered : (report queues queues.root 60 9).pairs = found.pairs.filter (60 ≤ ·.score) :=
    hhigher 60 (Nat.zero_le _)
  refine ⟨hlimit, htotal, hsame.trans htotal, hperm, hscores, ?_⟩
  rw [hfiltered]
  split_ifs with hdrained
  · exact List.filter_eq_self.mpr fun p hp => by simpa [hscores p hp] using hdrained
  · exact List.filter_eq_nil_iff.mpr fun p hp => by simpa [hscores p hp] using hdrained

end Similarity

end ScriptSurvey
