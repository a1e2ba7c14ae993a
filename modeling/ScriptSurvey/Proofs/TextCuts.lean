import Mathlib.Data.List.TakeWhile
import Mathlib.Tactic.Common
import ScriptSurvey.Text.Search

/-!
# Cutting texts

What a text is cut into at a character, once or at every place where it stands.
-/
namespace ScriptSurvey.Text

lemma strip_eq_self {drop : Char → Bool} {text : List Char} (h : ∀ c ∈ text, drop c = false) :
    strip drop text = text := by
  have hfront : text.dropWhile drop = text := by
    rw [List.dropWhile_eq_self_iff]
    intro hpos
    rw [h _ (List.getElem_mem hpos)]
    exact Bool.false_ne_true
  have hback : text.reverse.dropWhile drop = text.reverse := by
    rw [List.dropWhile_eq_self_iff]
    intro hpos
    rw [h _ (List.mem_reverse.mp (List.getElem_mem hpos))]
    exact Bool.false_ne_true
  rw [strip, hfront, hback, List.reverse_reverse]

lemma cutAt_eq_none {c : Char} {text : List Char} (h : c ∉ text) : cutAt c text = none := by
  induction text with
  | nil => rfl
  | cons d rest ih =>
    rw [List.mem_cons, not_or] at h
    rw [cutAt, if_neg (by simpa using fun hdc => h.1 hdc.symm), ih h.2, Option.map_none]

lemma cutAt_append {c : Char} {before : List Char} (h : c ∉ before) (after : List Char) :
    cutAt c (before ++ c :: after) = some (before, after) := by
  induction before with
  | nil => simp [cutAt]
  | cons d rest ih =>
    rw [List.mem_cons, not_or] at h
    rw [List.cons_append, cutAt, if_neg (by simpa using fun hdc => h.1 hdc.symm), ih h.2,
      Option.map_some]

lemma splitOnce_eq_none {text : String} {c : Char} (h : c ∉ text.toList) :
    splitOnce text c = none := by
  rw [splitOnce, cutAt_eq_none h, Option.map_none]

lemma splitOnce_append {before : String} (h : '.' ∉ before.toList) (after : String) :
    splitOnce (before ++ "." ++ after) '.' = some (before, after) := by
  have hlist : (before ++ "." ++ after).toList = before.toList ++ '.' :: after.toList := by simp
  rw [splitOnce, hlist, cutAt_append h, Option.map_some]
  simp

lemma pieces_eq_splitOn {α : Type} [BEq α] (c : α) (l : List α) : pieces c l = l.splitOn c := by
  induction l with
  | nil => rfl
  | cons d l ih =>
    rw [pieces, List.splitOn_cons_eq_if_modifyHead, ih]
    split_ifs
    · rfl
    · cases hrest : l.splitOn c with
      | nil => exact absurd hrest (List.splitOn_ne_nil c l)
      | cons first others => rfl

lemma pieces_intercalate {α : Type} [BEq α] [LawfulBEq α] {c : α} {parts : List (List α)}
    (hne : parts ≠ []) (h : ∀ part ∈ parts, c ∉ part) : pieces c ([c].intercalate parts) = parts := by
  rw [pieces_eq_splitOn, List.splitOn_intercalate c h hne]

lemma not_mem_of_mem_pieces {α : Type} [BEq α] [LawfulBEq α] {c : α} {l piece : List α}
    (h : piece ∈ pieces c l) : c ∉ piece := by
  induction l generalizing piece with
  | nil => simp_all [pieces]
  | cons d l ih =>
    rw [pieces_eq_splitOn, List.splitOn_cons_eq_if_modifyHead, ← pieces_eq_splitOn] at h
    split_ifs at h with hd
    · rcases List.mem_cons.mp h with rfl | h
      · exact List.not_mem_nil
      · exact ih h
    · cases hrest : pieces c l with
      | nil => simp [hrest] at h
      | cons first others =>
        rw [hrest] at h ih
        rcases List.mem_cons.mp h with rfl | h
        · have hne : c ≠ d := fun heq => hd (beq_iff_eq.mpr heq.symm)
          exact List.not_mem_cons_of_ne_of_not_mem hne (ih (List.mem_cons_self ..))
        · exact ih (List.mem_cons_of_mem _ h)

lemma split_ne_nil (text : String) (c : Char) : split text c ≠ [] := by
  rw [split, pieces_eq_splitOn]
  exact mt List.map_eq_nil_iff.mp (List.splitOn_ne_nil c _)

lemma split_intercalate {c : Char} {names : List String} (hne : names ≠ [])
    (h : ∀ n ∈ names, c ∉ n.toList) : split ((String.singleton c).intercalate names) c = names := by
  have hpieces : ∀ l ∈ names.map String.toList, c ∉ l := by simpa using h
  rw [split, String.toList_intercalate, String.toList_singleton,
    pieces_intercalate (by simpa using hne) hpieces]
  simp

lemma not_mem_of_mem_split {c : Char} {text piece : String} (h : piece ∈ split text c) :
    c ∉ piece.toList := by
  obtain ⟨l, hl, rfl⟩ := List.mem_map.mp h
  rw [String.toList_ofList]
  exact not_mem_of_mem_pieces hl

end ScriptSurvey.Text
