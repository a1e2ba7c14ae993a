import ScriptSurvey.Proofs.LegendTables

/-!
# Base codes

A base code either ends with an upper-case character behind at least one other, or consists of the
first two characters of the name. So no base code continues a longer one by digits, and candidates
of different base codes never meet.
-/
namespace ScriptSurvey

namespace Text

lemma isUppercase_of_isDigit {c : Char} (hc : c.isDigit = true) : isUppercase c = false := by
  have hle : c.toNat ≤ 57 := by
    simp only [Char.isDigit, Bool.and_eq_true, decide_eq_true_eq] at hc
    exact hc.2
  have hlow : ¬( 'A' ≤ c) := by
    intro hA
    have hge : 65 ≤ c.toNat := hA
    omega
  rw [isUppercase, if_pos (by omega)]
  simp [hlow]

lemma lowerChar_ne_nil (c : Char) : lowerChar c ≠ [] := by
  rw [lowerChar]
  split_ifs <;> simp

end Text

def EndsWithCapital (code : List Char) : Prop :=
  ∃ front capital, front ≠ [] ∧ Text.isUppercase capital = true ∧ code = front ++ [capital]

lemma endsWithCapital_take_capitals {name : List Char}
    (h : 2 ≤ (name.filter Text.isUppercase).length) :
    EndsWithCapital ((name.filter Text.isUppercase).take 3) := by
  have hlength : 2 ≤ ((name.filter Text.isUppercase).take 3).length := by
    rw [List.length_take]
    omega
  have hne : (name.filter Text.isUppercase).take 3 ≠ [] := by
    intro hnil
    rw [hnil] at hlength
    simp at hlength
  refine ⟨_, _, ?_, ?_, (List.dropLast_append_getLast hne).symm⟩
  · intro hnil
    have hshort := congrArg List.length hnil
    rw [List.length_dropLast, List.length_nil] at hshort
    omega
  · exact (List.mem_filter.mp (List.mem_of_mem_take (List.getLast_mem hne))).2

lemma baseCode_shape (name : String) :
    EndsWithCapital (baseCode name).toList ∨ (baseCode name).toList = name.toList.take 2 := by
  rw [baseCode]
  split
  case h_1 hname =>
    right
    rw [hname]
    rfl
  case h_2 first rest hname =>
    simp only
    split_ifs with hhumps
    · left
      rw [String.toList_ofList]
      rw [Bool.and_eq_true, decide_eq_true_eq] at hhumps
      exact endsWithCapital_take_capitals hhumps.2
    · cases hhump : rest.find? Text.isUppercase with
      | some hump =>
        left
        rw [String.toList_ofList]
        exact ⟨_, hump, Text.lowerChar_ne_nil first, List.find?_some hhump, rfl⟩
      | none =>
        right
        rw [String.toList_ofList, hname]

/-- Only a name with fewer than two characters has a base code that short, and it is that code. -/
lemma baseCode_eq_self {name : String} (h : (baseCode name).toList.length < 2) :
    baseCode name = name := by
  rcases baseCode_shape name with ⟨front, capital, hfront, -, hcode⟩ | htake
  · have hpos : 0 < front.length := List.length_pos_iff.mpr hfront
    rw [hcode, List.length_append, List.length_singleton] at h
    omega
  · have hshort : name.toList.length ≤ 2 := by
      rw [htake, List.length_take] at h
      omega
    rw [List.take_of_length_le hshort] at htake
    exact String.toList_inj.mp htake

lemma two_le_length_of_baseCode_eq {m n : String} (h : baseCode m = baseCode n) (hne : m ≠ n) :
    2 ≤ (baseCode n).toList.length := by
  by_contra hlt
  have hm : baseCode m = m := baseCode_eq_self (by rw [h]; omega)
  have hn : baseCode n = n := baseCode_eq_self (by omega)
  exact hne (hm.symm.trans (h.trans hn))

lemma baseCode_ne_append_digits (n : String) {code digits : List Char} (hcode : 2 ≤ code.length)
    (hne : digits ≠ []) (hdigits : ∀ c ∈ digits, c.isDigit = true) :
    (baseCode n).toList ≠ code ++ digits := by
  intro heq
  rcases baseCode_shape n with ⟨front, capital, -, hcapital, hshape⟩ | htake
  · -- the last character cannot be a capital and a digit
    have hlast : capital = digits.getLast hne := by
      have hends := hshape.symm.trans heq
      have hget := congrArg List.getLast? hends
      rw [List.getLast?_append_of_ne_nil _ hne, List.getLast?_concat,
        List.getLast?_eq_getLast_of_ne_nil hne] at hget
      exact Option.some.inj hget
    have hdigit : capital.isDigit = true := hlast ▸ hdigits _ (List.getLast_mem hne)
    rw [Text.isUppercase_of_isDigit hdigit] at hcapital
    exact Bool.false_ne_true hcapital
  · have hlength := congrArg List.length (htake.symm.trans heq)
    have hpos : 0 < digits.length := List.length_pos_iff.mpr hne
    rw [List.length_take, List.length_append] at hlength
    omega

namespace Legend

lemma isDigit_of_mem_numeral {n : Nat} {c : Char} (hc : c ∈ numeral n) : c.isDigit = true := by
  rw [numeral] at hc
  split_ifs at hc
  · simp at hc
  · exact Nat.isDigit_of_mem_toDigits (by decide) (by decide) hc

@[simp] lemma numeral_zero : numeral 0 = [] := rfl

/-- A base code that continues another one by digits of its number adds nothing to it. -/
lemma baseCode_eq_of_eq_append {m n : String} {j k : Nat} {middle : List Char}
    (hm : j ≠ 0 → 2 ≤ (baseCode m).toList.length)
    (hcode : (baseCode n).toList = (baseCode m).toList ++ middle)
    (hnumeral : numeral j = middle ++ numeral k) : baseCode m = baseCode n := by
  by_cases hmiddle : middle = []
  · rw [hmiddle, List.append_nil] at hcode
    exact String.toList_inj.mp hcode.symm
  · have hj : j ≠ 0 := by
      rintro rfl
      rw [numeral_zero] at hnumeral
      exact hmiddle (List.append_eq_nil_iff.mp hnumeral.symm).1
    have hdigits : ∀ c ∈ middle, c.isDigit = true := fun c hc =>
      isDigit_of_mem_numeral (hnumeral ▸ List.mem_append_left _ hc)
    exact absurd hcode (baseCode_ne_append_digits n (hm hj) hmiddle hdigits)

/-- Candidates that are equal have the same base code, if only base codes with two characters are
continued by numbers. -/
lemma baseCode_eq_of_candidate_eq {m n : String} {j k : Nat}
    (hm : j ≠ 0 → 2 ≤ (baseCode m).toList.length) (hn : k ≠ 0 → 2 ≤ (baseCode n).toList.length)
    (h : candidate (baseCode m) j = candidate (baseCode n) k) : baseCode m = baseCode n := by
  have hlist := congrArg String.toList h
  rw [toList_candidate, toList_candidate, List.append_eq_append_iff] at hlist
  rcases hlist with ⟨middle, hcode, hnumeral⟩ | ⟨middle, hcode, hnumeral⟩
  · exact baseCode_eq_of_eq_append hm hcode hnumeral
  · exact (baseCode_eq_of_eq_append hn hcode hnumeral).symm

end Legend

end ScriptSurvey
