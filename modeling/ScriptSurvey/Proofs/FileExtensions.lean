import Mathlib.Data.List.Basic
import Mathlib.Data.List.TakeWhile
import Mathlib.Tactic.Common
import ScriptSurvey.Language

/-!
# Extensions of files

The extension of a file is what stands behind the last dot of its name, if there is something in
front of this dot. So a file has an extension just when its name ends with it and is longer.
-/
namespace ScriptSurvey.Path

/-! ## File names cut at a dot -/

lemma splitExtension_append {stem extension : String} (hstem : stem ≠ "")
    (hdot : '.' ∉ extension.toList) :
    splitExtension (stem ++ "." ++ extension) = (stem, some extension) := by
  have hreversed : (stem ++ "." ++ extension).toList.reverse =
      extension.toList.reverse ++ '.' :: stem.toList.reverse := by
    simp
  have hpos : ∀ c ∈ extension.toList.reverse, decide (c ≠ '.') = true := by
    intro c hc
    exact decide_eq_true fun heq => hdot (heq ▸ List.mem_reverse.mp hc)
  obtain ⟨c, rest, hrest⟩ : ∃ c rest, stem.toList.reverse = c :: rest := by
    refine List.exists_cons_of_ne_nil fun hnil => hstem ?_
    simpa using hnil
  rw [splitExtension, hreversed, List.dropWhile_append_of_pos hpos,
    List.takeWhile_append_of_pos hpos, List.dropWhile_cons_of_neg (by simp),
    List.takeWhile_cons_of_neg (by simp), hrest]
  simp [← hrest]

lemma eq_of_splitExtension {name stem extension : String}
    (h : splitExtension name = (stem, some extension)) :
    name = stem ++ "." ++ extension ∧ stem ≠ "" ∧ '.' ∉ extension.toList := by
  rw [splitExtension] at h
  split at h
  case h_1 c d rest hdrop =>
    obtain ⟨hstem, hextension⟩ := Prod.mk.inj h
    have hc : c = '.' := by
      have hhead := List.head?_dropWhile_not (fun c => decide (c ≠ '.')) name.toList.reverse
      rw [hdrop] at hhead
      simpa using hhead
    have hsplit := List.takeWhile_append_dropWhile (p := fun c => decide (c ≠ '.'))
      (l := name.toList.reverse)
    rw [hdrop, hc] at hsplit
    have hname := congrArg List.reverse hsplit
    rw [List.reverse_reverse] at hname
    have hextension := Option.some.inj hextension
    refine ⟨String.toList_inj.mp ?_, fun hempty => ?_, fun hdot => ?_⟩
    · rw [← hname, ← hstem, ← hextension]
      simp
    · rw [hempty] at hstem
      simpa using congrArg String.toList hstem
    · rw [← hextension, String.toList_ofList, List.mem_reverse] at hdot
      simpa using List.mem_takeWhile_imp hdot
  case h_2 => cases h

/-- What stands in front of a dot and the extension at the end of a file name, unless that is
nothing. -/
def stem? (name extension : String) : Option String :=
  ((name.toList.dropSuffix? ("." ++ extension).toList).filter (· ≠ [])).map String.ofList

lemma stem?_eq_some_iff {name extension stem : String} :
    stem? name extension = some stem ↔ name = stem ++ "." ++ extension ∧ stem ≠ "" := by
  simp only [stem?, Option.map_eq_some_iff, Option.filter_eq_some_iff, List.dropSuffix?_eq_some_iff,
    beq_iff_eq, decide_eq_true_eq]
  constructor
  · rintro ⟨front, ⟨⟨suffix, hname, rfl⟩, hne⟩, rfl⟩
    refine ⟨String.toList_inj.mp ?_, by simpa using hne⟩
    rw [hname]
    simp
  · rintro ⟨rfl, hne⟩
    exact ⟨stem.toList, ⟨⟨_, by simp, rfl⟩, by simpa using hne⟩, String.ofList_toList⟩

/-- Cutting at the last dot is looking for the extension. -/
lemma stem?_eq {name extension : String} (hdot : '.' ∉ extension.toList) :
    stem? name extension =
      if (splitExtension name).2 = some extension then some (splitExtension name).1 else none := by
  ext stem
  rw [stem?_eq_some_iff, Option.ite_none_right_eq_some, Option.some_inj]
  constructor
  · rintro ⟨rfl, hne⟩
    rw [splitExtension_append hne hdot]
    exact ⟨rfl, rfl⟩
  · rintro ⟨hextension, hstem⟩
    obtain ⟨hname, hne, -⟩ := eq_of_splitExtension (Prod.ext hstem hextension)
    exact ⟨hname, hne⟩

end ScriptSurvey.Path
