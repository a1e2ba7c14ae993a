import Mathlib.Algebra.Order.BigOperators.Group.Finset
import ScriptSurvey.Metrics.Similarity
import ScriptSurvey.Proofs.ExactScale
import ScriptSurvey.Proofs.FirstOccurrences

/-!
# Scores of similar functions

Names are compared as sets, and structures as multisets of tokens: a token of one structure takes at
most one partner away from the other, so the tokens with a partner are the common part of both.
Every part of an agreement is therefore the same from either side and between nothing and its
weight. The weights add up to a hundred.
-/
namespace ScriptSurvey.Similarity

open ExactScale
open Syntax (FlowToken)

/-! ## Names -/

section

variable (a b : List String)

lemma commonNames_eq_card : commonNames a b = (a.toFinset ∩ b.toFinset).card := by
  rw [commonNames, ← List.toFinset_card_of_nodup ((nodup_eraseDups a).filter _)]
  congr 1
  ext name
  simp [List.mem_eraseDups]

lemma allNames_eq_card : allNames a b = (a.toFinset ∪ b.toFinset).card := by
  rw [allNames, ← List.toFinset_card_of_nodup (nodup_eraseDups (a ++ b))]
  congr 1
  ext name
  simp [List.mem_eraseDups]

lemma commonNames_le_allNames : commonNames a b ≤ allNames a b := by
  rw [commonNames_eq_card, allNames_eq_card]
  exact Finset.card_le_card Finset.inter_subset_union

lemma overlap_comm {α : Type} [Scale α] : (overlap a b : α) = overlap b a := by
  simp only [overlap, commonNames_eq_card, allNames_eq_card, Finset.inter_comm, Finset.union_comm]

lemma overlap_mem_Icc : (overlap a b : ℚ) ∈ Set.Icc 0 1 := by
  rw [overlap]
  split_ifs
  · simp
  · exact ratio_mem_Icc (commonNames_le_allNames a b)

variable {a b}

lemma overlap_of_same (h : ∀ name, name ∈ a ↔ name ∈ b) : (overlap a b : ℚ) = 1 := by
  have hset : a.toFinset = b.toFinset := by
    ext name
    rw [List.mem_toFinset, List.mem_toFinset, h]
  have hall : commonNames a b = allNames a b := by
    rw [commonNames_eq_card, allNames_eq_card, hset, Finset.inter_self, Finset.union_self]
  rw [overlap, hall]
  split_ifs with hnone
  · simp
  · rw [ratio_rat, div_self (mod_cast hnone)]

end

/-! ## Tokens -/

/-- What two structures have in common as multisets of tokens. -/
def shared (s t : List FlowToken) : ℕ := ∑ k ∈ s.toFinset ∪ t.toFinset, min (s.count k) (t.count k)

section

variable (s t : List FlowToken)

/-- By induction on the second structure, as the partners are looked for. -/
lemma partners_eq_length : partners s t = (t.bagInter s).length := by
  induction t generalizing s with
  | nil => simp [partners]
  | cons k t ih =>
    rw [partners, List.cons_bagInter]
    by_cases hk : k ∈ s
    · simp [hk, ih]
    · simp [hk, ih]

lemma shared_comm : shared s t = shared t s := by
  simp only [shared, Finset.union_comm s.toFinset, min_comm]

lemma shared_self : shared s s = s.length := by
  simp only [shared, Finset.union_self, min_self]
  exact List.sum_toFinset_count_eq_length s

/-- Of each token there are as many partners as there are tokens in both structures. -/
lemma partners_eq_shared : partners s t = shared s t := by
  have hmem : ∀ k ∈ (↑(t.bagInter s) : Multiset FlowToken), k ∈ s.toFinset ∪ t.toFinset := by
    intro k hk
    rw [Finset.mem_union, List.mem_toFinset]
    exact .inl (List.mem_bagInter.mp hk).2
  rw [partners_eq_length, ← Multiset.coe_card, ← Multiset.sum_count_eq_card hmem, shared]
  refine Finset.sum_congr rfl fun k _ => ?_
  rw [Multiset.coe_count, List.count_bagInter, min_comm]

lemma partners_le : partners s t ≤ max s.length t.length := by
  rw [partners_eq_length]
  exact List.bagInter_sublist_left.length_le.trans (le_max_right _ _)

lemma tokenOverlap_comm {α : Type} [Scale α] : (tokenOverlap s t : α) = tokenOverlap t s := by
  simp only [tokenOverlap, partners_eq_shared, shared_comm s t, max_comm s.length]

lemma tokenOverlap_rat : (tokenOverlap s t : ℚ) =
    if s = [] ∧ t = [] then 1 else (shared s t : ℚ) / (max s.length t.length : ℕ) := by
  have hnone : max s.length t.length = 0 ↔ s = [] ∧ t = [] := by
    rw [Nat.max_eq_zero_iff, List.length_eq_zero_iff, List.length_eq_zero_iff]
  simp [tokenOverlap, hnone, partners_eq_shared]

lemma tokenOverlap_mem_Icc : (tokenOverlap s t : ℚ) ∈ Set.Icc 0 1 := by
  rw [tokenOverlap]
  split_ifs
  · simp
  · exact ratio_mem_Icc (partners_le s t)

lemma tokenOverlap_self : (tokenOverlap s s : ℚ) = 1 := by
  rw [tokenOverlap, max_self, partners_eq_shared, shared_self]
  split_ifs with hnone
  · simp
  · rw [ratio_rat, div_self (mod_cast hnone)]

end

/-! ## Agreement -/

section

variable (a b : Signature)

lemma agreement_comm {α : Type} [Scale α] : (agreement a b : α) = agreement b a := by
  rw [agreement, agreement, overlap_comm a.params, overlap_comm a.calls, tokenOverlap_comm a.flow,
    if_congr (eq_comm (a := a.params.length)) rfl rfl, if_congr (eq_comm (a := a.isAsync)) rfl rfl,
    if_congr (eq_comm (a := a.flow)) rfl rfl]

lemma score_comm : score a b = score b a := by
  rw [score, score, scoreOn, scoreOn, agreement_comm]

/-- The five parts, where equal structures are compared token by token like all others. -/
def weightedParts : ℚ :=
  (if a.params.length = b.params.length then 30 else 0) + overlap a.params b.params * 20 +
    (if a.isAsync = b.isAsync then 10 else 0) + tokenOverlap a.flow b.flow * 25 +
    overlap a.calls b.calls * 15

lemma agreement_rat : agreement a b = weightedParts a b := by
  have hflow : (if a.flow = b.flow then 25 else tokenOverlap a.flow b.flow * 25 : ℚ) =
      tokenOverlap a.flow b.flow * 25 := by
    split_ifs with heq
    · rw [heq, tokenOverlap_self, one_mul]
    · rfl
  rw [weightedParts, ← hflow]
  simp only [agreement, weighted, add_rat, mul_rat, ofNat_rat]
  split_ifs <;> push_cast <;> ring

lemma agreement_mem_Icc : (agreement a b : ℚ) ∈ Set.Icc 0 100 := by
  obtain ⟨hparams, hparams'⟩ := overlap_mem_Icc a.params b.params
  obtain ⟨hflow, hflow'⟩ := tokenOverlap_mem_Icc a.flow b.flow
  obtain ⟨hcalls, hcalls'⟩ := overlap_mem_Icc a.calls b.calls
  rw [agreement_rat, weightedParts]
  constructor <;> split_ifs <;> linarith

variable {a b}

lemma agreement_of_same (hparams : a.params = b.params) (htimed : a.isAsync = b.isAsync)
    (hflow : a.flow = b.flow) (hcalls : ∀ name, name ∈ a.calls ↔ name ∈ b.calls) :
    (agreement a b : ℚ) = 100 := by
  rw [agreement_rat, weightedParts, hparams, htimed, hflow, overlap_of_same fun _ => Iff.rfl,
    tokenOverlap_self, overlap_of_same hcalls]
  norm_num

end

/-- On the scale of fractions, the score of two functions is their agreement to the nearest whole
number; the agreement is never below 0 or above 100. It does not depend on the order of the
functions, nor on whether equal structures are taken for a full overlap at once or are compared
token by token, and it is full for functions with the same parameters, structure and calls. -/
theorem score_exact (a b : Signature) :
    scoreOn ℚ a b = scoreOn ℚ b a ∧
    (a.params = b.params → a.isAsync = b.isAsync → a.flow = b.flow →
      (∀ name, name ∈ a.calls ↔ name ∈ b.calls) → scoreOn ℚ a b = 100) ∧
    (agreement a b : ℚ) ∈ Set.Icc 0 100 ∧
    (scoreOn ℚ a b : ℤ) = round (agreement a b : ℚ) ∧
    agreement a b = weightedParts a b ∧
    ∀ s t : List FlowToken,
      ((tokenOverlap s t : ℚ) =
        if s = [] ∧ t = [] then 1 else (shared s t : ℚ) / (max s.length t.length : ℕ)) ∧
      (tokenOverlap s t : ℚ) = tokenOverlap t s := by
  have hround : (scoreOn ℚ a b : ℤ) = round (agreement a b : ℚ) := by
    obtain ⟨hlow, hhigh⟩ := agreement_mem_Icc a b
    rw [scoreOn, points_eq_round, min_eq_right hhigh, max_eq_right hlow]
  refine ⟨by rw [scoreOn, scoreOn, agreement_comm], fun hparams htimed hflow hcalls => ?_,
    agreement_mem_Icc a b, hround, agreement_rat a b, fun s t =>
      ⟨tokenOverlap_rat s t, tokenOverlap_comm s t⟩⟩
  rw [agreement_of_same hparams htimed hflow hcalls, round_ofNat] at hround
  exact_mod_cast hround

def loader (name : String) (calls : List String) : Signature :=
  ⟨name, ⟨false, ["loaders.js"]⟩, 1, ["id", "retries"], true,
    [.branch, .leave, .forInLoop, .branch, .raise, .await, .leave], calls⟩

theorem score_exact_loaders :
    let a := loader "loadUser" ["fetch", "log"]
    let b := loader "loadOrder" ["log", "fetch"]
    a.params = b.params ∧ a.isAsync = b.isAsync ∧ a.flow = b.flow ∧
      (∀ name, name ∈ a.calls ↔ name ∈ b.calls) ∧ scoreOn ℚ a b = 100 := by
  intro a b
  have hcalls : ∀ name, name ∈ a.calls ↔ name ∈ b.calls := fun _ => List.Perm.mem_iff (.swap ..)
  exact ⟨rfl, rfl, rfl, hcalls, (score_exact a b).2.1 rfl rfl rfl hcalls⟩

/-- Two tokens of three have a partner, though one of them stands twice in each structure. -/
example :
    (tokenOverlap [FlowToken.branch, .branch, .leave] [.branch, .leave, .leave] : ℚ) = 2 / 3 := by
  decide +kernel

end ScriptSurvey.Similarity
