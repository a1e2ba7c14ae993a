import Mathlib.Algebra.Order.Field.Rat
import Mathlib.Data.Finset.Card
import Mathlib.Data.List.Destutter
import Mathlib.Tactic.NormNum
import ScriptSurvey.Proofs.TextOrder
import ScriptSurvey.Suggestion

/-!
# Close names

Two names are as similar as the triples that they share are many among the triples of both. The
candidates that are close to a query are ranked by their similarity, and repetitions are left out of
the ranking where they follow each other. So the first three of the ranking are the best candidates,
but one of them may come twice: a name that comes again behind another one of the same similarity is
no repetition of its neighbour.
-/
namespace ScriptSurvey.Suggestion

def triples (name : String) : Finset Trigram := (windows (Text.lowercase name).toList).toFinset

/-- The part of the shared triples in all triples, and nothing when there are none. -/
def jaccard (a b : String) : ℚ := (triples a ∩ triples b).card / (triples a ∪ triples b).card

/-! ## Exact fractions -/

namespace Similarity

def ratio (s : Similarity) : ℚ := s.shared / s.total

variable {s t : Similarity}

lemma isClose_iff : s.isClose = true ↔ 3 / 10 ≤ s.ratio := by
  rw [isClose, Bool.and_eq_true, decide_eq_true_eq, decide_eq_true_eq, ratio]
  rcases Nat.eq_zero_or_pos s.total with htotal | htotal
  · norm_num [htotal]
  · have hpos : (0 : ℚ) < s.total := Nat.cast_pos.mpr htotal
    rw [div_le_div_iff₀ (by norm_num) hpos, and_iff_right htotal, mul_comm (s.shared : ℚ)]
    norm_cast

lemma total_pos_of_isClose (h : s.isClose = true) : 0 < s.total :=
  of_decide_eq_true (Bool.and_eq_true_iff.mp h).1

lemma atLeast_iff (hs : s.isClose = true) (ht : t.isClose = true) :
    s.atLeast t = true ↔ t.ratio ≤ s.ratio := by
  have hs' : (0 : ℚ) < s.total := Nat.cast_pos.mpr (total_pos_of_isClose hs)
  have ht' : (0 : ℚ) < t.total := Nat.cast_pos.mpr (total_pos_of_isClose ht)
  rw [atLeast, decide_eq_true_eq, ratio, ratio, div_le_div_iff₀ ht' hs']
  norm_cast

end Similarity

section

variable (a b : String)

lemma toFinset_trigrams : (trigrams a).toFinset = triples a := by
  ext t
  simp [trigrams, triples, List.mem_eraseDups]

lemma nodup_trigrams : (trigrams a).Nodup := nodup_eraseDups _

lemma shared_of : (Similarity.of (trigrams a) (trigrams b)).shared =
    (triples a ∩ triples b).card := by
  have hcard := List.toFinset_card_of_nodup ((nodup_trigrams a).filter (trigrams b).contains)
  have hset : ((trigrams a).filter (trigrams b).contains).toFinset = triples a ∩ triples b := by
    ext t
    simp [← toFinset_trigrams]
  rw [← hset, hcard]
  rfl

lemma total_of : (Similarity.of (trigrams a) (trigrams b)).total =
    (triples a ∪ triples b).card := by
  rw [Finset.card_union, ← shared_of, ← toFinset_trigrams a, ← toFinset_trigrams b,
    List.toFinset_card_of_nodup (nodup_trigrams a), List.toFinset_card_of_nodup (nodup_trigrams b)]
  rfl

lemma ratio_of : (Similarity.of (trigrams a) (trigrams b)).ratio = jaccard a b := by
  rw [Similarity.ratio, shared_of, total_of, jaccard]

lemma jaccard_of_isEmpty (h : (trigrams a).isEmpty = true) : jaccard a b = 0 := by
  have hnone : triples a = ∅ := by
    rw [← toFinset_trigrams, List.isEmpty_iff.mp h, List.toFinset_nil]
  simp [jaccard, hnone]

end

/-! ## Rankings -/

section

variable {α : Type} {score : α → ℚ} {l : List α}

lemma filter_score_cons_of_eq {a : α} {v : ℚ} (h : score a = v) :
    (a :: l).filter (score · = v) = a :: l.filter (score · = v) :=
  List.filter_cons_of_pos (decide_eq_true h)

lemma filter_score_cons_of_ne {a : α} {v : ℚ} (h : score a ≠ v) :
    (a :: l).filter (score · = v) = l.filter (score · = v) :=
  List.filter_cons_of_neg (mt of_decide_eq_true h)

/-- Of three elements, the first one can only come again at the end. -/
lemma nodup_iff_of_isChain (hlength : l.length ≤ 3) (hchain : l.IsChain (· ≠ ·)) :
    l.Nodup ↔ ∀ a b, l ≠ [a, b, a] := by
  match l, hlength, hchain with
  | [], _, _ => simp
  | [a], _, _ => simp
  | [a, b], _, h => simpa using h
  | [a, b, c], _, h =>
    simp at h
    simp [h, eq_comm]

variable [DecidableEq α]

lemma mem_destutter'_ne {a b : α} : b ∈ l.destutter' (· ≠ ·) a ↔ b ∈ a :: l := by
  induction l generalizing a with
  | nil => simp
  | cons c l ih =>
    by_cases h : a = c
    · simp [h, ih]
    · simp [h, ih]

lemma mem_destutter_ne {b : α} : b ∈ l.destutter (· ≠ ·) ↔ b ∈ l := by
  cases l with
  | nil => simp
  | cons a l => exact mem_destutter'_ne

/-- By induction on the ranking. Behind an element of the score come elements of the score as long as
there are any. -/
lemma filter_destutter' {a : α} (h : (a :: l).Pairwise fun b c => score c ≤ score b) (v : ℚ) :
    (l.destutter' (· ≠ ·) a).filter (score · = v) =
      ((a :: l).filter (score · = v)).destutter (· ≠ ·) := by
  induction l generalizing a with
  | nil => by_cases ha : score a = v <;> simp [ha]
  | cons b l ih =>
    obtain ⟨hfirst, hrest⟩ := List.pairwise_cons.mp h
    by_cases hab : a = b
    · subst hab
      rw [List.destutter'_cons_neg _ (not_not.mpr rfl), ih hrest]
      by_cases ha : score a = v
      · simp [ha, List.destutter_cons']
      · simp [ha]
    · rw [List.destutter'_cons_pos _ hab]
      by_cases ha : score a = v
      · rw [filter_score_cons_of_eq ha, ih hrest, filter_score_cons_of_eq ha]
        by_cases hb : score b = v
        · rw [filter_score_cons_of_eq hb, List.destutter_cons', List.destutter_cons',
            List.destutter'_cons_pos (h := hab)]
        · have hnone : (b :: l).filter (score · = v) = [] := by
            rw [List.filter_eq_nil_iff]
            intro c hc hscore
            have hbv : score b < v := lt_of_le_of_ne (ha ▸ hfirst b (List.mem_cons_self ..)) hb
            have hcb : score c ≤ score b := by
              rcases List.mem_cons.mp hc with rfl | hc
              · exact le_rfl
              · exact (List.pairwise_cons.mp hrest).1 c hc
            exact absurd (of_decide_eq_true hscore) (hcb.trans_lt hbv).ne
          rw [hnone, List.destutter_nil, List.destutter_singleton]
      · rw [filter_score_cons_of_ne ha, ih hrest, filter_score_cons_of_ne ha]

lemma filter_destutter (h : l.Pairwise fun b c => score c ≤ score b) (v : ℚ) :
    (l.destutter (· ≠ ·)).filter (score · = v) =
      (l.filter (score · = v)).destutter (· ≠ ·) := by
  cases l with
  | nil => simp
  | cons a l => exact filter_destutter' h v

end

/-! ## The ranking of candidates -/

def closeNames (candidates : List String) (query : String) : List String :=
  candidates.filter (3 / 10 ≤ jaccard query ·)

/-- The first name is at least as similar to the query as the second. -/
def nearer (query a b : String) : Bool := decide (jaccard query b ≤ jaccard query a)

/-- The close candidates, the most similar first, without repetitions of neighbours. -/
def ranking (candidates : List String) (query : String) : List String :=
  ((closeNames candidates query).mergeSort (nearer query)).destutter (· ≠ ·)

def entry (query name : String) : String × Similarity :=
  (name, Similarity.of (trigrams query) (trigrams name))

section

variable {candidates : List String} {query : String} {name : String}

lemma dropRepeats_map (l : List String) :
    dropRepeats (l.map (entry query)) = (l.destutter (· ≠ ·)).map (entry query) := by
  cases l with
  | nil => simp [dropRepeats]
  | cons a l =>
    rw [List.destutter_cons']
    induction l generalizing a with
    | nil => simp [dropRepeats]
    | cons b l ih =>
      rw [List.map_cons, List.map_cons, dropRepeats]
      by_cases hab : a = b
      · subst hab
        rw [if_pos (beq_self_eq_true _), ← List.map_cons, ih,
          List.destutter'_cons_neg (h := not_not.mpr rfl)]
      · rw [if_neg (by simpa [entry] using hab), ← List.map_cons, ih,
          List.destutter'_cons_pos (h := hab), List.map_cons]

lemma isClose_entry_iff : (entry query name).2.isClose = true ↔ 3 / 10 ≤ jaccard query name := by
  rw [Similarity.isClose_iff, entry, ratio_of]

lemma mem_closeNames : name ∈ closeNames candidates query ↔
    name ∈ candidates ∧ 3 / 10 ≤ jaccard query name := by
  simp [closeNames]

lemma atLeast_entry {a b : String} (ha : a ∈ closeNames candidates query)
    (hb : b ∈ closeNames candidates query) :
    (entry query a).2.atLeast (entry query b).2 = nearer query a b := by
  rw [Bool.eq_iff_iff, Similarity.atLeast_iff (isClose_entry_iff.mpr (mem_closeNames.mp ha).2)
    (isClose_entry_iff.mpr (mem_closeNames.mp hb).2), entry, entry, ratio_of, ratio_of, nearer,
    decide_eq_true_eq]

lemma closest_eq (candidates : List String) (query : String) :
    closest candidates query = (ranking candidates query).take limit := by
  by_cases hempty : (trigrams query).isEmpty = true
  · have hnone : closeNames candidates query = [] := by
      rw [closeNames, List.filter_eq_nil_iff]
      intro name _ hclose
      rw [jaccard_of_isEmpty query name hempty] at hclose
      norm_num at hclose
    simp [closest, hempty, ranking, hnone]
  · have hclose : (candidates.map (entry query)).filter (·.2.isClose) =
        (closeNames candidates query).map (entry query) := by
      rw [List.filter_map, closeNames]
      refine congrArg _ (List.filter_congr fun name _ => ?_)
      rw [Bool.eq_iff_iff, Function.comp_apply, isClose_entry_iff, decide_eq_true_eq]
    have hsort : ((closeNames candidates query).map (entry query)).mergeSort
          (fun a b => a.2.atLeast b.2) =
        ((closeNames candidates query).mergeSort (nearer query)).map (entry query) :=
      (List.map_mergeSort (s := fun a b : String × Similarity => a.2.atLeast b.2)
        (f := entry query) fun a ha b hb => (atLeast_entry ha hb).symm).symm
    have hnames : ∀ l : List String, (l.map (entry query)).map (·.1) = l := fun l => by
      rw [List.map_map]
      exact List.map_id l
    rw [closest, if_neg hempty]
    change ((dropRepeats (((candidates.map (entry query)).filter (·.2.isClose)).mergeSort
      fun a b => a.2.atLeast b.2)).take limit).map (·.1) = _
    rw [hclose, hsort, dropRepeats_map, ← List.map_take, hnames, ranking]

lemma nearer_trans (query a b c : String) (hab : nearer query a b = true)
    (hbc : nearer query b c = true) : nearer query a c = true :=
  decide_eq_true ((of_decide_eq_true hbc).trans (of_decide_eq_true hab))

lemma nearer_total (query a b : String) : (nearer query a b || nearer query b a) = true := by
  rw [Bool.or_eq_true, nearer, nearer, decide_eq_true_eq, decide_eq_true_eq]
  exact le_total _ _

lemma mem_ranking : name ∈ ranking candidates query ↔
    name ∈ candidates ∧ 3 / 10 ≤ jaccard query name := by
  rw [ranking, mem_destutter_ne, List.mem_mergeSort, mem_closeNames]

lemma pairwise_sorted (candidates : List String) (query : String) :
    ((closeNames candidates query).mergeSort (nearer query)).Pairwise fun a b =>
      jaccard query b ≤ jaccard query a :=
  (List.pairwise_mergeSort (nearer_trans query) (nearer_total query) _).imp of_decide_eq_true

lemma pairwise_ranking (candidates : List String) (query : String) :
    (ranking candidates query).Pairwise fun a b => jaccard query b ≤ jaccard query a :=
  (pairwise_sorted candidates query).sublist (List.destutter_sublist _ _)

/-- Names of one similarity are ranked in the order of the candidates. -/
lemma filter_ranking {v : ℚ} (hv : 3 / 10 ≤ v) :
    (ranking candidates query).filter (jaccard query · = v) =
      (candidates.filter (jaccard query · = v)).destutter (· ≠ ·) := by
  have htied : (closeNames candidates query).filter (jaccard query · = v) =
      candidates.filter (jaccard query · = v) := by
    rw [closeNames, List.filter_filter]
    refine List.filter_congr fun name _ => ?_
    by_cases hname : jaccard query name = v <;> simp [hname, hv]
  have hequal : (candidates.filter (jaccard query · = v)).Pairwise fun a b =>
      nearer query a b = true := by
    refine List.pairwise_of_forall_mem_list fun a ha b hb => decide_eq_true ?_
    rw [of_decide_eq_true (List.mem_filter.mp ha).2, of_decide_eq_true (List.mem_filter.mp hb).2]
  rw [ranking, filter_destutter (pairwise_sorted candidates query),
    filter_mergeSort (nearer_trans query) (nearer_total query), htied,
    List.mergeSort_of_pairwise hequal]

/-! ## The names that are offered -/

/-- The candidates that are the most similar to the query, repetitions of neighbours counted once,
begin with a name, another one, and the first one again. -/
def FirstReturns (candidates : List String) (query : String) : Prop :=
  ∃ a b, 3 / 10 ≤ jaccard query a ∧ (∀ c ∈ candidates, jaccard query c ≤ jaccard query a) ∧
    [a, b, a] <+: (candidates.filter (jaccard query · = jaccard query a)).destutter (· ≠ ·)

lemma pairwise_closest (candidates : List String) (query : String) :
    (closest candidates query).Pairwise fun a b => jaccard query b ≤ jaccard query a := by
  rw [closest_eq]
  exact (pairwise_ranking candidates query).sublist (List.take_sublist _ _)

lemma length_closest_le : (closest candidates query).length ≤ 3 := by
  rw [closest_eq]
  exact List.length_take_le _ _

lemma mem_of_mem_closest (h : name ∈ closest candidates query) :
    name ∈ candidates ∧ 3 / 10 ≤ jaccard query name := by
  rw [closest_eq] at h
  exact mem_ranking.mp (List.mem_of_mem_take h)

/-- The names of one similarity are the first ones of it among the candidates. -/
lemma filter_closest_isPrefix (candidates : List String) (query : String) (v : ℚ) :
    (closest candidates query).filter (jaccard query · = v) <+:
      (candidates.filter (jaccard query · = v)).destutter (· ≠ ·) := by
  rcases le_or_gt (3 / 10) v with hv | hv
  · rw [← filter_ranking hv, closest_eq]
    exact (List.take_prefix _ _).filter _
  · have hnone : (closest candidates query).filter (jaccard query · = v) = [] := by
      rw [List.filter_eq_nil_iff]
      intro name hname hscore
      rw [of_decide_eq_true hscore |>.symm] at hv
      exact absurd (mem_of_mem_closest hname).2 hv.not_ge
    rw [hnone]
    exact List.nil_prefix

/-- A close candidate that is not offered stands behind the third place of the ranking. -/
lemma mem_drop_of_notMem_closest (hname : name ∈ candidates) (hclose : 3 / 10 ≤ jaccard query name)
    (h : name ∉ closest candidates query) : name ∈ (ranking candidates query).drop limit := by
  have hranked : name ∈ ranking candidates query := mem_ranking.mpr ⟨hname, hclose⟩
  rw [← List.take_append_drop limit (ranking candidates query), ← closest_eq] at hranked
  exact (List.mem_append.mp hranked).resolve_left h

lemma le_of_mem_drop {other : String} (hname : name ∈ (ranking candidates query).drop limit)
    (hother : other ∈ closest candidates query) : jaccard query name ≤ jaccard query other := by
  have hsorted := pairwise_ranking candidates query
  rw [← List.take_append_drop limit (ranking candidates query), ← closest_eq] at hsorted
  exact (List.pairwise_append.mp hsorted).2.2 other hother name hname

lemma le_of_notMem_closest {other : String} (hname : name ∈ candidates)
    (h : name ∉ closest candidates query) (hother : other ∈ closest candidates query) :
    jaccard query name ≤ jaccard query other := by
  rcases le_or_gt (3 / 10) (jaccard query name) with hclose | hfar
  · exact le_of_mem_drop (mem_drop_of_notMem_closest hname hclose h) hother
  · exact hfar.le.trans (mem_of_mem_closest hother).2

lemma length_closest_of_notMem (hname : name ∈ candidates) (hclose : 3 / 10 ≤ jaccard query name)
    (h : name ∉ closest candidates query) : (closest candidates query).length = 3 := by
  have hdrop := List.length_pos_of_mem (mem_drop_of_notMem_closest hname hclose h)
  rw [List.length_drop, limit] at hdrop
  rw [closest_eq, List.length_take, limit]
  omega

lemma isChain_closest : (closest candidates query).IsChain (· ≠ ·) := by
  rw [closest_eq]
  exact (List.isChain_destutter _ _).take _

/-- The best candidates stand in front of the ranking, so only they can fill all three places with
two names. -/
lemma firstReturns_iff :
    FirstReturns candidates query ↔ ∃ a b, closest candidates query = [a, b, a] := by
  constructor
  · rintro ⟨a, b, hclose, hbest, hbegin⟩
    refine ⟨a, b, ?_⟩
    rw [← filter_ranking hclose] at hbegin
    have hthree : 3 ≤ ((ranking candidates query).filter (jaccard query · = jaccard query a)).length :=
      hbegin.length_le
    have hlength : (closest candidates query).length = 3 := by
      have hle := hthree.trans (List.length_filter_le _ _)
      rw [closest_eq, List.length_take, limit]
      omega
    have hall : ∀ n ∈ closest candidates query, jaccard query n = jaccard query a := by
      intro n hn
      by_contra hne
      have hlt : jaccard query n < jaccard query a :=
        lt_of_le_of_ne (hbest n (mem_of_mem_closest hn).1) hne
      -- then no name behind the third place is among the best ones, and two in front are too few
      have hrest : ((ranking candidates query).drop limit).filter
          (jaccard query · = jaccard query a) = [] := by
        rw [List.filter_eq_nil_iff]
        intro m hm hscore
        have hle := le_of_mem_drop hm hn
        rw [of_decide_eq_true hscore] at hle
        exact absurd hlt hle.not_gt
      have hfew : ((closest candidates query).filter (jaccard query · = jaccard query a)).length <
          (closest candidates query).length :=
        List.length_filter_lt_length_iff_exists.mpr ⟨n, hn, by simpa using hne⟩
      rw [← List.take_append_drop limit (ranking candidates query), ← closest_eq,
        List.filter_append, hrest, List.append_nil] at hthree
      omega
    have hfront : closest candidates query <+:
        (ranking candidates query).filter (jaccard query · = jaccard query a) := by
      have h := filter_closest_isPrefix candidates query (jaccard query a)
      rwa [List.filter_eq_self.mpr fun n hn => decide_eq_true (hall n hn),
        ← filter_ranking hclose] at h
    exact (List.prefix_of_prefix_length_le hfront hbegin (by simp [hlength])).eq_of_length
      (by simp [hlength])
  · rintro ⟨a, b, h⟩
    have ha : a ∈ closest candidates query := by simp [h]
    have hab : jaccard query b = jaccard query a := by
      have hsorted := pairwise_closest candidates query
      simp only [h, List.pairwise_cons, List.mem_cons, List.not_mem_nil, or_false,
        forall_eq_or_imp, forall_eq] at hsorted
      exact le_antisymm hsorted.1.1 hsorted.2.1
    refine ⟨a, b, (mem_of_mem_closest ha).2, fun c hc => ?_, ?_⟩
    · by_cases hoffered : c ∈ closest candidates query
      · rw [h] at hoffered
        simp only [List.mem_cons, List.not_mem_nil, or_false] at hoffered
        rcases hoffered with rfl | rfl | rfl
        · exact le_rfl
        · exact hab.le
        · exact le_rfl
      · exact le_of_notMem_closest hc hoffered ha
    · have hbegin := filter_closest_isPrefix candidates query (jaccard query a)
      rwa [h, List.filter_eq_self.mpr (by simp [hab])] at hbegin

lemma nodup_closest_iff : (closest candidates query).Nodup ↔ ¬ FirstReturns candidates query := by
  rw [nodup_iff_of_isChain length_closest_le isChain_closest, firstReturns_iff]
  simp only [not_exists, ne_eq]

lemma not_firstReturns_of_nodup (h : candidates.Nodup) : ¬ FirstReturns candidates query := by
  rintro ⟨a, b, -, -, hbegin⟩
  have hsub : [a, b, a].Sublist candidates :=
    hbegin.sublist.trans ((List.destutter_sublist _ _).trans List.filter_sublist)
  simpa using h.sublist hsub

end

/-- At most three names are offered. They are candidates with a similarity of three tenths or more, the
most similar first; names of one similarity are the first ones of it among the candidates, repetitions
of neighbours counted once. A candidate that is not offered is no more similar than one that is, and
while there is room for it not even close. All names are distinct, unless the best candidates begin
with a name that comes again behind another one. -/
theorem closest_ranked (candidates : List String) (query : String) :
    let offered := closest candidates query
    offered.length ≤ 3 ∧
    (∀ name ∈ offered, name ∈ candidates ∧ 3 / 10 ≤ jaccard query name) ∧
    (offered.Pairwise fun a b => jaccard query b ≤ jaccard query a) ∧
    (∀ v, offered.filter (jaccard query · = v) <+:
      (candidates.filter (jaccard query · = v)).destutter (· ≠ ·)) ∧
    (∀ name ∈ candidates, name ∉ offered →
      (∀ other ∈ offered, jaccard query name ≤ jaccard query other) ∧
      (3 / 10 ≤ jaccard query name → offered.length = 3)) ∧
    (offered.Nodup ↔ ¬ FirstReturns candidates query) ∧
    (candidates.Nodup → offered.Nodup) := by
  intro offered
  refine ⟨length_closest_le, fun name hname => mem_of_mem_closest hname,
    pairwise_closest candidates query, filter_closest_isPrefix candidates query, fun name hname hnot =>
      ⟨fun other hother => le_of_notMem_closest hname hnot hother,
        fun hclose => length_closest_of_notMem hname hclose hnot⟩,
    nodup_closest_iff, fun hnodup => nodup_closest_iff.mpr (not_firstReturns_of_nodup hnodup)⟩

/-- Names that differ in case only are equally similar, so the one between two others of one name keeps
these apart. -/
theorem candidate_offered_twice :
    closest ["render", "Render", "render"] "render" = ["render", "Render", "render"] ∧
      ¬ ∀ candidates query, (closest candidates query).Nodup := by
  have hclose : closeNames ["render", "Render", "render"] "render" =
      ["render", "Render", "render"] := by decide +kernel
  have htied : ["render", "Render", "render"].Pairwise fun a b => nearer "render" a b = true := by
    decide +kernel
  have hoffered : closest ["render", "Render", "render"] "render" =
      ["render", "Render", "render"] := by
    rw [closest_eq, ranking, hclose, List.mergeSort_of_pairwise htied]
    rfl
  refine ⟨hoffered, fun hall => ?_⟩
  have hnodup := hall ["render", "Render", "render"] "render"
  rw [hoffered] at hnodup
  exact absurd hnodup (by decide)

end ScriptSurvey.Suggestion
