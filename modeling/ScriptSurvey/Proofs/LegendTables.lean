import Mathlib.Data.List.Perm.Subperm
import Mathlib.Data.Nat.Find
import ScriptSurvey.Legend
import ScriptSurvey.Proofs.FirstOccurrences
import ScriptSurvey.Proofs.Positions

/-!
# The tables of a legend

A legend keeps its entries and two tables of their positions. Each insertion keeps the three in
step: it leaves the legend alone or adds one entry, whose code is the first free candidate. The
search for it ends, for there are more candidates than entries. So names and codes correspond one
to one, and a query that has been resolved resolves to itself.
-/
namespace ScriptSurvey.Legend

def codes (legend : Legend) : List String := legend.entries.map (·.code)

structure Consistent (legend : Legend) : Prop where
  byName : Positions legend.names legend.byName
  byCode : Positions legend.codes legend.byCode

namespace Consistent

variable {legend : Legend} {name code : String}

lemma codeOf?_eq_some_iff (h : legend.Consistent) :
    legend.codeOf? name = some code ↔ ⟨name, code⟩ ∈ legend.entries := by
  rw [codeOf?, h.byName.bind_lookup_eq_some_iff]
  constructor
  · rintro ⟨e, he, rfl, rfl⟩
    exact he
  · intro he
    exact ⟨_, he, rfl, rfl⟩

lemma nameOf?_eq_some_iff (h : legend.Consistent) :
    legend.nameOf? code = some name ↔ ⟨name, code⟩ ∈ legend.entries := by
  rw [nameOf?, h.byCode.bind_lookup_eq_some_iff]
  constructor
  · rintro ⟨e, he, rfl, rfl⟩
    exact he
  · intro he
    exact ⟨_, he, rfl, rfl⟩

lemma codeOf?_iff_nameOf? (h : legend.Consistent) :
    legend.codeOf? name = some code ↔ legend.nameOf? code = some name :=
  h.codeOf?_eq_some_iff.trans h.nameOf?_eq_some_iff.symm

lemma codeOf?_inj (h : legend.Consistent) {other : String} (hname : legend.codeOf? name = some code)
    (hother : legend.codeOf? other = some code) : name = other := by
  rw [h.codeOf?_iff_nameOf?] at hname hother
  exact Option.some.inj (hname.symm.trans hother)

lemma mem_codes_of_codeOf? (h : legend.Consistent) (hcode : legend.codeOf? name = some code) :
    code ∈ legend.codes :=
  List.mem_map.mpr ⟨_, h.codeOf?_eq_some_iff.mp hcode, rfl⟩

lemma exists_codeOf?_iff (h : legend.Consistent) :
    (∃ code, legend.codeOf? name = some code) ↔ name ∈ legend.names := by
  simp only [h.codeOf?_eq_some_iff, names, List.mem_map]
  constructor
  · rintro ⟨code, he⟩
    exact ⟨_, he, rfl⟩
  · rintro ⟨e, he, rfl⟩
    exact ⟨e.code, he⟩

lemma hasCode_iff (h : legend.Consistent) : legend.hasCode code = true ↔ code ∈ legend.codes :=
  h.byCode.isSome_lookup_iff code

/-! ## Resolving -/

lemma resolve?_of_mem_codes (h : legend.Consistent) (hcode : code ∈ legend.codes) :
    legend.resolve? code = some code := by
  obtain ⟨i, hi⟩ := List.mem_iff_getElem?.mp hcode
  have hfound : legend.byCode.lookup code = some i := (h.byCode code i).mpr hi
  rw [resolve?, hfound]
  rw [codes, List.getElem?_map] at hi
  exact hi

lemma mem_codes_of_resolve? (h : legend.Consistent) {query : String}
    (hquery : legend.resolve? query = some code) : code ∈ legend.codes := by
  rw [resolve?] at hquery
  split at hquery
  · obtain ⟨e, he, rfl⟩ := Option.map_eq_some_iff.mp hquery
    exact List.mem_map.mpr ⟨e, List.mem_of_getElem? he, rfl⟩
  · exact h.mem_codes_of_codeOf? hquery

end Consistent

/-! ## The search for a free code -/

/-- The characters that a number adds to the base. -/
def numeral (n : Nat) : List Char := if n = 0 then [] else Nat.toDigits 10 n

lemma toList_candidate (base : String) (n : Nat) :
    (candidate base n).toList = base.toList ++ numeral n := by
  rw [candidate, numeral]
  split_ifs with hn
  · rw [List.append_nil]
  · rw [String.toList_append, Nat.toString_eq_repr, Nat.toList_repr]

lemma numeral_injective : Function.Injective numeral := by
  intro m n h
  rw [numeral, numeral] at h
  split_ifs at h with hm hn hn
  · omega
  · exact absurd h.symm Nat.toDigits_ne_nil
  · exact absurd h Nat.toDigits_ne_nil
  · have hread := congrArg (Nat.ofDigitChars 10 · 0) h
    simpa only [Nat.ofDigitChars_ten_toDigits] using hread

lemma candidate_injective (base : String) : Function.Injective (candidate base) := by
  intro m n h
  have hlist := congrArg String.toList h
  rw [toList_candidate, toList_candidate] at hlist
  exact numeral_injective (List.append_cancel_left hlist)

structure FirstFree (legend : Legend) (base : String) (n : Nat) : Prop where
  free : legend.hasCode (candidate base n) = false
  used : ∀ k < n, legend.hasCode (candidate base k) = true

/-- The search comes to the first free candidate if its fuel reaches so far. -/
lemma firstFree_eq {legend : Legend} {base : String} {r : Nat} (h : legend.FirstFree base r)
    (fuel n : Nat) (hn : n ≤ r) (hr : r ≤ n + fuel) :
    legend.firstFree base n fuel = candidate base r := by
  -- the search has come to `n`, which is not beyond `r`, and what is left of the fuel reaches `r`
  induction fuel generalizing n with
  | zero =>
    have hnr : n = r := by omega
    rw [firstFree, hnr]
  | succ fuel ih =>
    rw [firstFree]
    split_ifs with hused
    · have hne : n ≠ r := by
        rintro rfl
        rw [h.free] at hused
        exact Bool.false_ne_true hused
      exact ih (n + 1) (by omega) (by omega)
    · have hnr : n = r := by
        by_contra hne
        exact hused (h.used n (by omega))
      rw [hnr]

variable {legend : Legend}

/-- The entries cannot use up all candidates. -/
lemma exists_free (h : legend.Consistent) (base : String) :
    ∃ n ≤ legend.size, legend.hasCode (candidate base n) = false := by
  by_contra hall
  push Not at hall
  have hsub : (List.range (legend.size + 1)).map (candidate base) ⊆ legend.codes := by
    intro code hcode
    obtain ⟨n, hn, rfl⟩ := List.mem_map.mp hcode
    have hle : n ≤ legend.size := Nat.lt_succ_iff.mp (List.mem_range.mp hn)
    rw [← h.hasCode_iff]
    exact eq_true_of_ne_false (hall n hle)
  have hnodup : ((List.range (legend.size + 1)).map (candidate base)).Nodup :=
    List.nodup_range.map (candidate_injective base)
  have hlength := (List.subperm_of_subset hnodup hsub).length_le
  rw [List.length_map, List.length_range, codes, List.length_map] at hlength
  exact absurd hlength (by rw [size]; omega)

lemma exists_firstFree (h : legend.Consistent) (base : String) :
    ∃ n ≤ legend.size, legend.FirstFree base n := by
  obtain ⟨m, hm, hfree⟩ := exists_free h base
  have hex : ∃ n, legend.hasCode (candidate base n) = false := ⟨m, hfree⟩
  refine ⟨Nat.find hex, le_trans (Nat.find_min' hex hfree) hm, Nat.find_spec hex, ?_⟩
  intro k hk
  exact eq_true_of_ne_false (Nat.find_min hex hk)

/-- The search ends within as many steps as there are entries, at the first free candidate. -/
lemma freshCode_eq (h : legend.Consistent) {name : String} {n : Nat}
    (hn : legend.FirstFree (baseCode name) n) :
    legend.freshCode name = candidate (baseCode name) n := by
  obtain ⟨m, hm, hfirst⟩ := exists_firstFree h (baseCode name)
  have hnm : n ≤ m := by
    by_contra hlt
    have hused := hn.used m (by omega)
    rw [hfirst.free] at hused
    exact Bool.false_ne_true hused
  exact firstFree_eq hn _ 0 (Nat.zero_le n) (by rw [size] at hm; omega)

lemma hasCode_freshCode (h : legend.Consistent) (name : String) :
    legend.hasCode (legend.freshCode name) = false := by
  obtain ⟨n, -, hn⟩ := exists_firstFree h (baseCode name)
  rw [freshCode_eq h hn]
  exact hn.free

/-! ## Insertion -/

lemma insert_of_mem (h : legend.Consistent) {name : String} (hname : name ∈ legend.names) :
    legend.insert name = legend := by
  obtain ⟨i, hi⟩ := Option.isSome_iff_exists.mp ((h.byName.isSome_lookup_iff name).mpr hname)
  rw [insert, hi]

lemma insert_of_notMem (h : legend.Consistent) {name : String} (hname : name ∉ legend.names) :
    legend.insert name =
      ⟨legend.entries ++ [⟨name, legend.freshCode name⟩],
        (name, legend.entries.length) :: legend.byName,
        (legend.freshCode name, legend.entries.length) :: legend.byCode⟩ := by
  rw [insert, (h.byName.lookup_eq_none_iff name).mpr hname]

lemma consistent_empty : empty.Consistent := ⟨Positions.empty, Positions.empty⟩

lemma Consistent.insert (h : legend.Consistent) (name : String) :
    (legend.insert name).Consistent := by
  by_cases hname : name ∈ legend.names
  · rw [insert_of_mem h hname]
    exact h
  · have hfree : legend.byCode.lookup (legend.freshCode name) = none := by
      have hunused := hasCode_freshCode h name
      rw [hasCode] at hunused
      simpa using hunused
    have hbyName := h.byName.concat ((h.byName.lookup_eq_none_iff name).mpr hname)
    have hbyCode := h.byCode.concat hfree
    rw [insert_of_notMem h hname]
    constructor
    · simpa [names] using hbyName
    · simpa [codes] using hbyCode

lemma names_insert (h : legend.Consistent) (name : String) :
    (legend.insert name).names =
      if name ∈ legend.names then legend.names else legend.names ++ [name] := by
  split_ifs with hname
  · rw [insert_of_mem h hname]
  · rw [insert_of_notMem h hname, names, names, List.map_append, List.map_singleton]

lemma codeOf?_insert_of_eq_some (h : legend.Consistent) {name code : String} (other : String)
    (hcode : legend.codeOf? name = some code) : (legend.insert other).codeOf? name = some code := by
  rw [h.codeOf?_eq_some_iff] at hcode
  rw [(h.insert other).codeOf?_eq_some_iff]
  by_cases hother : other ∈ legend.names
  · rw [insert_of_mem h hother]
    exact hcode
  · rw [insert_of_notMem h hother]
    exact List.mem_append_left _ hcode

lemma codeOf?_insert_self (h : legend.Consistent) {name : String} (hname : name ∉ legend.names) :
    (legend.insert name).codeOf? name = some (legend.freshCode name) := by
  rw [(h.insert name).codeOf?_eq_some_iff, insert_of_notMem h hname]
  exact List.mem_append_right _ (List.mem_singleton.mpr rfl)

/-! ## Runs of insertions -/

lemma ofNames_concat (names : List String) (name : String) :
    ofNames (names ++ [name]) = (ofNames names).insert name := by
  rw [ofNames, ofNames, List.foldl_append, List.foldl_cons, List.foldl_nil]

lemma consistent_ofNames (names : List String) : (ofNames names).Consistent := by
  induction names using List.reverseRecOn with
  | nil => exact consistent_empty
  | append_singleton names name ih =>
    rw [ofNames_concat]
    exact ih.insert name

lemma names_ofNames (names : List String) : (ofNames names).names = names.eraseDups := by
  induction names using List.reverseRecOn with
  | nil => rfl
  | append_singleton names name ih =>
    rw [ofNames_concat, names_insert (consistent_ofNames names), ih, eraseDups_concat]
    simp only [List.mem_eraseDups]

lemma mem_names_ofNames (names : List String) (name : String) :
    name ∈ (ofNames names).names ↔ name ∈ names := by
  rw [names_ofNames, List.mem_eraseDups]

/-- After any run of insertions the entries and both tables agree: each inserted name has one entry,
in the order of first insertions, names and codes determine each other, no code is given twice, and
a free code is found among the first candidates. Codes resolve to themselves, and so does whatever a
query resolves to. -/
theorem ofNames_tables (names : List String) :
    (ofNames names).Consistent ∧
    (ofNames names).names = names.eraseDups ∧
    (∀ name code, (ofNames names).codeOf? name = some code ↔
      (ofNames names).nameOf? code = some name) ∧
    (ofNames names).codes.Nodup ∧
    (∀ name, ∃ n ≤ (ofNames names).size, (ofNames names).FirstFree (baseCode name) n ∧
      (ofNames names).freshCode name = candidate (baseCode name) n) ∧
    (∀ e ∈ (ofNames names).entries, (ofNames names).resolve? e.code = some e.code) ∧
    ∀ query code, (ofNames names).resolve? query = some code →
      (ofNames names).resolve? code = some code := by
  have h : (ofNames names).Consistent := consistent_ofNames names
  refine ⟨h, names_ofNames names, fun _ _ => h.codeOf?_iff_nameOf?, h.byCode.nodup, ?_, ?_, ?_⟩
  · intro name
    obtain ⟨n, hn, hfirst⟩ := exists_firstFree h (baseCode name)
    exact ⟨n, hn, hfirst, freshCode_eq h hfirst⟩
  · intro e he
    exact h.resolve?_of_mem_codes (List.mem_map.mpr ⟨e, he, rfl⟩)
  · intro query code hquery
    exact h.resolve?_of_mem_codes (h.mem_codes_of_resolve? hquery)

/-- A query that is both a code and the name of something else is read as the code. -/
theorem ofNames_tables_codeFirst :
    (ofNames ["UserService", "US"]).resolve? "UserService" = some "US" ∧
      (ofNames ["UserService", "US"]).resolve? "US" = some "US" ∧
      (ofNames ["UserService", "US"]).codeOf? "US" = some "US1" := by
  obtain ⟨-, -, hcodes, -, -, -, hresolved⟩ := ofNames_tables ["UserService", "US"]
  have hservice : (ofNames ["UserService", "US"]).resolve? "UserService" = some "US" := by
    decide +kernel
  have hname : (ofNames ["UserService", "US"]).nameOf? "US1" = some "US" := by decide +kernel
  exact ⟨hservice, hresolved "UserService" "US" hservice, (hcodes "US" "US1").mpr hname⟩

end ScriptSurvey.Legend
