import Mathlib.Data.List.Flatten
import Mathlib.Data.List.Induction
import Mathlib.Tactic.Common
import ScriptSurvey.Text.Lines

/-!
# Where lines stand

The lines of a text are counted by its line feeds. The place of each line, found by adding up bytes,
is where its content ends in the text.
-/
namespace ScriptSurvey.Text

/-! ## Bytes of a text -/

lemma toList_loop (bytes : ByteArray) (i : ℕ) (seen : List UInt8) :
    ByteArray.toList.loop bytes i seen = seen.reverse ++ bytes.data.toList.drop i := by
  induction i, seen using ByteArray.toList.loop.induct bytes with
  | case1 i seen hi ih =>
    have hlength : i < bytes.data.toList.length := by simpa using hi
    have hget : bytes.get! i = bytes.data.toList[i] := by
      simp [ByteArray.get!, getElem!_pos bytes.data i hi]
    rw [ByteArray.toList.loop, if_pos hi, ih, hget, List.reverse_cons, List.append_assoc,
      List.singleton_append, List.getElem_cons_drop]
  | case2 i seen hi =>
    have hdrop : bytes.data.toList.drop i = [] := List.drop_eq_nil_of_le (by simpa using hi)
    rw [ByteArray.toList.loop, if_neg hi, hdrop, List.append_nil]

lemma toList_toUTF8 (text : String) :
    text.toUTF8.toList = text.toList.flatMap String.utf8EncodeChar := by
  conv_lhs => rw [← String.ofList_toList (s := text)]
  rw [ByteArray.toList, toList_loop, String.toUTF8_eq_toByteArray, String.toByteArray_ofList,
    List.utf8Encode, List.toList_data_toByteArray]
  rfl

/-- A byte below 128 belongs to the character with its number. -/
lemma toNat_of_mem_utf8EncodeChar {c : Char} {b : UInt8} (h : b ∈ String.utf8EncodeChar c)
    (hb : b.toNat < 128) : c.val.toNat = b.toNat := by
  have hbyte : ∀ n : ℕ, b = UInt8.ofNat n → b.toNat = n % 256 := fun n e => by
    simpa using congrArg UInt8.toNat e
  rw [String.utf8EncodeChar] at h
  split_ifs at h <;> simp only [List.mem_cons, List.not_mem_nil, or_false] at h <;> grind

lemma notMem_utf8EncodeChar {c : Char} (h : c ≠ '\n') : (10 : UInt8) ∉ String.utf8EncodeChar c :=
  fun hmem => h (Char.ext (UInt32.toNat_inj.mp (toNat_of_mem_utf8EncodeChar hmem (by decide))))

lemma count_toUTF8 (text : String) : text.toUTF8.toList.count 10 = text.toList.count '\n' := by
  rw [toList_toUTF8]
  induction text.toList with
  | nil => rfl
  | cons c rest ih =>
    rw [List.flatMap_cons, List.count_append, ih]
    by_cases hc : c = '\n'
    · subst hc
      rw [List.count_cons_self, Nat.add_comm]
      rfl
    · rw [List.count_eq_zero.mpr (notMem_utf8EncodeChar hc), List.count_cons_of_ne hc, Nat.zero_add]

lemma getLast?_toUTF8_eq_feed_iff (text : String) :
    text.toUTF8.toList.getLast? = some 10 ↔ text.toList.getLast? = some '\n' := by
  rw [toList_toUTF8]
  induction text.toList using List.reverseRecOn with
  | nil => simp
  | append_singleton front c _ =>
    obtain ⟨b, hb⟩ : ∃ b, (String.utf8EncodeChar c).getLast? = some b :=
      ⟨_, List.getLast?_eq_some_getLast String.utf8EncodeChar_ne_nil⟩
    rw [List.flatMap_append, List.flatMap_singleton, List.getLast?_concat, List.getLast?_append, hb,
      Option.some_or, ← hb]
    by_cases hc : c = '\n'
    · subst hc
      simp [String.utf8EncodeChar]
    · refine iff_of_false (fun h => ?_) (by simpa using hc)
      exact notMem_utf8EncodeChar hc (List.mem_of_getLast? h)

/-! ## Counting lines -/

lemma endedLines_ne_nil {text : List Char} (h : text ≠ []) : endedLines text ≠ [] := by
  obtain ⟨content, ending, rest, -, -, -, hlines⟩ := exists_first_line h
  simp [hlines]

lemma length_endedLines (text : List Char) :
    (endedLines text).length =
      text.count '\n' + if text.getLast?.all (· == '\n') then 0 else 1 := by
  induction text with
  | nil => rfl
  | cons c rest ih =>
    by_cases hc : c = '\n'
    · subst hc
      rw [endedLines, if_pos rfl, List.length_cons, ih, List.count_cons_self]
      cases rest <;> simp [Nat.add_right_comm]
    · rw [endedLines_cons_of_ne hc, List.length_cons, List.length_tail, List.count_cons_of_ne hc]
      cases rest with
      | nil => simp [endedLines, hc]
      | cons d more =>
        have hpos : 0 < (endedLines (d :: more)).length :=
          List.length_pos_iff.mpr (endedLines_ne_nil (by simp))
        rw [Nat.sub_add_cancel hpos, ih, List.getLast?_cons_cons]

lemma length_lines (text : String) : (lines text.toList).length = countLines text.toUTF8.toList := by
  have hlast := getLast?_toUTF8_eq_feed_iff text
  rw [lines, List.length_map, length_endedLines, countLines, count_toUTF8]
  cases h : text.toUTF8.toList.getLast? with
  | none =>
    have htext : text.toList = [] := by
      rw [List.getLast?_eq_none_iff, toList_toUTF8, List.flatMap_eq_nil_iff] at h
      exact List.eq_nil_iff_forall_not_mem.mpr fun c hc => String.utf8EncodeChar_ne_nil (h c hc)
    simp [htext]
  | some b =>
    rw [h, Option.some_inj] at hlast
    cases hc : text.toList.getLast? with
    | none => simp_all
    | some c =>
      rw [hc, Option.some_inj] at hlast
      by_cases hb : b = 10
      · simp [hb, hlast.mp hb]
      · simp [hb, mt hlast.mpr hb]

/-! ## Lines and their places -/

/-- The line with this number has this content, and `through` is the text from its start through this
content: the lines in front with their endings, then the content. -/
structure IsLine (text : List Char) (number : ℕ) (content through : List Char) : Prop where
  positive : 0 < number
  content_eq : (lines text)[number - 1]? = some content
  through_eq : through = ((endedLines text).take (number - 1)).flatten ++ content

section

variable {text : String}

lemma placedLines?_eq_some (text : String) : placedLines? text = some (placedLines text) :=
  (Option.some_get _).symm

lemma placedLines_spec (text : String) :
    (placedLines text).length = (lines text.toList).length ∧
      ∀ i line, (placedLines text)[i]? = some line →
        line.number = i + 1 ∧ IsLine text.toList line.number line.content line.through := by
  obtain ⟨placed, hplaced, hlength, hspec⟩ := exists_placeLines? [] text.toList rfl 1
  obtain rfl : placedLines text = placed := by
    rw [← Option.some_inj, ← placedLines?_eq_some]
    exact hplaced
  refine ⟨by rw [hlength, lines, List.length_map], fun i line hline => ?_⟩
  obtain ⟨hnumber, hcontent, hthrough⟩ := hspec i line hline
  obtain rfl : i = line.number - 1 := by omega
  exact ⟨by omega, by omega, hcontent, hthrough⟩

lemma isLine_of_mem {line : Line text} (h : line ∈ placedLines text) :
    IsLine text.toList line.number line.content line.through := by
  obtain ⟨i, hi⟩ := List.mem_iff_getElem?.mp h
  exact ((placedLines_spec text).2 i line hi).2

lemma exists_mem_placedLines {number : ℕ} {content through : List Char}
    (h : IsLine text.toList number content through) :
    ∃ line ∈ placedLines text,
      line.number = number ∧ line.content = content ∧ line.through = through := by
  obtain ⟨hlength, hspec⟩ := placedLines_spec text
  have hlt : number - 1 < (placedLines text).length := by
    rw [hlength]
    exact (List.getElem?_eq_some_iff.mp h.content_eq).1
  obtain ⟨hnumber, hline⟩ := hspec (number - 1) _ (List.getElem?_eq_getElem hlt)
  have hpositive := h.positive
  have hsame : (placedLines text)[number - 1].number = number := by omega
  rw [hsame] at hline
  have hcontent : (placedLines text)[number - 1].content = content :=
    Option.some_inj.mp (hline.content_eq.symm.trans h.content_eq)
  refine ⟨_, List.getElem_mem hlt, hsame, hcontent, ?_⟩
  rw [hline.through_eq, h.through_eq, hcontent]

lemma pairwise_number_placedLines (text : String) :
    (placedLines text).Pairwise fun a b => a.number < b.number := by
  rw [List.pairwise_iff_getElem]
  intro i j hi hj hij
  have hspec := (placedLines_spec text).2
  rw [(hspec i _ (List.getElem?_eq_getElem hi)).1, (hspec j _ (List.getElem?_eq_getElem hj)).1]
  exact Nat.succ_lt_succ hij

lemma number_le_countLines {number : ℕ} {content through : List Char}
    (h : IsLine text.toList number content through) :
    number ≤ countLines text.toUTF8.toList := by
  have hlt := (List.getElem?_eq_some_iff.mp h.content_eq).1
  rw [length_lines] at hlt
  omega

end

end ScriptSurvey.Text
