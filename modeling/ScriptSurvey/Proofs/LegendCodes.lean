import Mathlib.Data.List.TakeWhile
import ScriptSurvey.Proofs.BaseCodes

/-!
# The codes of a legend

A name has its base code, followed by the number of names that claimed the same base code before.
So its code depends on the names with that base code only, wherever other names stand.
-/
namespace ScriptSurvey.Legend

/-- The names with a base code. -/
def claims (names : List String) (base : String) : List String :=
  names.filter (baseCode · == base)

def rank (names : List String) (name : String) : Nat :=
  ((claims names (baseCode name)).takeWhile (· != name)).eraseDups.length

variable {names : List String} {name base : String}

lemma mem_claims_iff : name ∈ claims names base ↔ name ∈ names ∧ baseCode name = base := by
  rw [claims, List.mem_filter, beq_iff_eq]

lemma claims_concat (other : String) :
    claims (names ++ [other]) base = claims names base ++ claims [other] base :=
  List.filter_append ..

lemma rank_eq_idxOf (h : name ∈ names) :
    rank names name = (claims names (baseCode name)).eraseDups.idxOf name :=
  (idxOf_eraseDups (mem_claims_iff.mpr ⟨h, rfl⟩)).symm

lemma rank_lt (h : name ∈ names) :
    rank names name < (claims names (baseCode name)).eraseDups.length := by
  rw [rank_eq_idxOf h]
  exact List.idxOf_lt_length_of_mem (List.mem_eraseDups.mpr (mem_claims_iff.mpr ⟨h, rfl⟩))

lemma exists_rank_eq {k : Nat} (hk : k < (claims names base).eraseDups.length) :
    ∃ m ∈ names, baseCode m = base ∧ rank names m = k := by
  have hmem : (claims names base).eraseDups[k] ∈ claims names base :=
    List.mem_eraseDups.mp (List.getElem_mem hk)
  obtain ⟨hnames, hbase⟩ := mem_claims_iff.mp hmem
  refine ⟨_, hnames, hbase, ?_⟩
  rw [rank_eq_idxOf hnames, hbase]
  exact (nodup_eraseDups _).idxOf_getElem k hk

lemma rank_concat_of_mem (h : name ∈ names) (other : String) :
    rank (names ++ [other]) name = rank names name := by
  have hclaim : name ∈ (claims names (baseCode name)).eraseDups :=
    List.mem_eraseDups.mpr (mem_claims_iff.mpr ⟨h, rfl⟩)
  rw [rank_eq_idxOf (List.mem_append_left _ h), rank_eq_idxOf h, claims_concat,
    List.eraseDups_append, List.idxOf_append_of_mem hclaim]

lemma rank_concat_self (h : name ∉ names) :
    rank (names ++ [name]) name = (claims names (baseCode name)).eraseDups.length := by
  have hself : claims [name] (baseCode name) = [name] := by simp [claims]
  have hother : ∀ m ∈ claims names (baseCode name), (m != name) = true := by
    intro m hm
    rw [bne_iff_ne]
    rintro rfl
    exact h (mem_claims_iff.mp hm).1
  rw [rank, claims_concat, hself, List.takeWhile_append_of_pos hother,
    List.takeWhile_cons_of_neg (by simp), List.append_nil]

/-- A name behind another one with its base code has a base code of two characters or more. -/
lemma two_le_length_of_rank_ne_zero (h : rank names name ≠ 0) :
    2 ≤ (baseCode name).toList.length := by
  obtain ⟨m, hm⟩ := List.exists_mem_of_length_pos (Nat.pos_of_ne_zero h)
  rw [List.mem_eraseDups] at hm
  have hkept := List.mem_takeWhile_imp hm
  have hne : m ≠ name := by simpa using hkept
  have hclaim := List.takeWhile_subset _ hm
  exact two_le_length_of_baseCode_eq (mem_claims_iff.mp hclaim).2 hne

def Ranked (legend : Legend) (names : List String) : Prop :=
  ∀ name ∈ names, legend.codeOf? name = some (candidate (baseCode name) (rank names name))

/-- If the codes so far follow the ranks, then so does the first free candidate for a new name: the
claims on its base code use up the candidates of lower rank, and no other name has one. -/
lemma firstFree_rank (h : Ranked (ofNames names) names) (hname : name ∉ names) :
    (ofNames names).FirstFree (baseCode name) (rank (names ++ [name]) name) := by
  have hlegend := consistent_ofNames names
  constructor
  · -- a name that has the candidate would be a claim of the same base code and of a rank too high
    rw [Bool.eq_false_iff, ne_eq, hlegend.hasCode_iff, codes, List.mem_map]
    rintro ⟨e, he, hcode⟩
    have hmem : e.name ∈ names := by
      rw [← mem_names_ofNames]
      exact List.mem_map.mpr ⟨e, he, rfl⟩
    have hranked := (h e.name hmem).symm.trans (hlegend.codeOf?_eq_some_iff.mpr he)
    have heq : candidate (baseCode e.name) (rank names e.name) =
        candidate (baseCode name) (rank (names ++ [name]) name) :=
      (Option.some.inj hranked).trans hcode
    have hbase : baseCode e.name = baseCode name :=
      baseCode_eq_of_candidate_eq two_le_length_of_rank_ne_zero two_le_length_of_rank_ne_zero heq
    rw [hbase] at heq
    have hrank := candidate_injective _ heq
    have hlt := rank_lt hmem
    rw [hrank, hbase, rank_concat_self hname] at hlt
    exact Nat.lt_irrefl _ hlt
  · intro k hk
    rw [rank_concat_self hname] at hk
    obtain ⟨m, hm, hbase, hrank⟩ := exists_rank_eq hk
    rw [hlegend.hasCode_iff, ← hbase, ← hrank]
    exact hlegend.mem_codes_of_codeOf? (h m hm)

lemma ranked_ofNames (names : List String) : Ranked (ofNames names) names := by
  induction names using List.reverseRecOn with
  | nil => exact fun name hname => absurd hname List.not_mem_nil
  | append_singleton names name ih =>
    have hlegend := consistent_ofNames names
    have hold : ∀ m ∈ names, (ofNames (names ++ [name])).codeOf? m =
        some (candidate (baseCode m) (rank (names ++ [name]) m)) := by
      intro m hm
      rw [ofNames_concat, rank_concat_of_mem hm]
      exact codeOf?_insert_of_eq_some hlegend name (ih m hm)
    intro m hm
    by_cases hmem : m ∈ names
    · exact hold m hmem
    · obtain rfl : m = name := by simpa [hmem] using hm
      have hnew : m ∉ (ofNames names).names := by rwa [mem_names_ofNames]
      rw [ofNames_concat, codeOf?_insert_self hlegend hnew,
        freshCode_eq hlegend (firstFree_rank ih hmem)]

lemma codeOf?_eq_none_of_notMem (h : name ∉ names) : (ofNames names).codeOf? name = none := by
  rw [Option.eq_none_iff_forall_ne_some]
  intro code hcode
  rw [← mem_names_ofNames, ← (consistent_ofNames names).exists_codeOf?_iff] at h
  exact h ⟨code, hcode⟩

/-- The first of the names with a base code has that code, and each later one has it followed by the
number of distinct ones before. So lists that agree on the names with a base code give these the
same codes, whatever other names they hold and wherever these stand. -/
theorem codeOf?_ofNames (names : List String) :
    (∀ name ∈ names, (ofNames names).codeOf? name =
      some (if rank names name = 0 then baseCode name
        else baseCode name ++ toString (rank names name))) ∧
    ∀ name others, claims others (baseCode name) = claims names (baseCode name) →
      (ofNames others).codeOf? name = (ofNames names).codeOf? name := by
  refine ⟨ranked_ofNames names, fun name others hclaims => ?_⟩
  have hmem : name ∈ others ↔ name ∈ names := by
    have hsame : name ∈ claims others (baseCode name) ↔ name ∈ claims names (baseCode name) := by
      rw [hclaims]
    simpa only [mem_claims_iff, and_true] using hsame
  have hrank : rank others name = rank names name := by rw [rank, rank, hclaims]
  by_cases hname : name ∈ names
  · rw [ranked_ofNames others name (hmem.mpr hname), ranked_ofNames names name hname, hrank]
  · rw [codeOf?_eq_none_of_notMem hname, codeOf?_eq_none_of_notMem (hname ∘ hmem.mp)]

/-- Two names claim the base code before; a repetition and another base code do not count. -/
theorem codeOf?_ofNames_third :
    (ofNames ["getUser", "load", "getUsers", "getUser", "gitUrl"]).codeOf? "gitUrl" = some "gU2" ∧
      (ofNames ["getUser", "getUsers", "getUser", "gitUrl", "load"]).codeOf? "gitUrl" =
        some "gU2" := by
  obtain ⟨hcodes, hothers⟩ :=
    codeOf?_ofNames ["getUser", "load", "getUsers", "getUser", "gitUrl"]
  have hrank : rank ["getUser", "load", "getUsers", "getUser", "gitUrl"] "gitUrl" = 2 := by
    decide +kernel
  have hthird := hcodes "gitUrl" (by decide)
  rw [hrank] at hthird
  exact ⟨hthird, (hothers "gitUrl" _ (by decide +kernel)).trans hthird⟩

end ScriptSurvey.Legend
