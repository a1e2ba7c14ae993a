import ScriptSurvey.Proofs.LexicalPaths
import ScriptSurvey.Proofs.TextCuts
import ScriptSurvey.Resolution

/-!
# Normal paths

A normal path is left as it is by normalising, also when it is written out and read again. What is
joined to a path is joined to its normal form with the same result, so an import resolves alike from
both.
-/
namespace ScriptSurvey

namespace Path

section

variable {p q : Path} {names kept : List String}

/-! ## Normalising again -/

lemma foldl_normalizeStep_of_isPlain (h : ∀ n ∈ names, IsPlain n) (kept : List String) :
    names.foldl normalizeStep kept = kept ++ names := by
  induction names generalizing kept with
  | nil => rw [List.foldl_nil, List.append_nil]
  | cons name rest ih =>
    rw [List.foldl_cons, normalizeStep_of_isPlain (h name List.mem_cons_self),
      ih (fun n hn => h n (List.mem_cons_of_mem _ hn)), List.append_assoc, List.singleton_append]

/-- One `..` and plain names behind it stay. -/
lemma foldl_normalizeStep_self {r : Remains} (h : ∀ n ∈ r.names, IsPlain n) :
    r.kept.foldl normalizeStep [] = r.kept := by
  have hup : (List.replicate (r.up % 2) "..").foldl normalizeStep [] =
      List.replicate (r.up % 2) ".." := by
    rcases Nat.mod_two_eq_zero_or_one r.up with h | h <;> rw [h] <;> rfl
  rw [Remains.kept, List.foldl_append, hup, foldl_normalizeStep_of_isPlain h]

lemma names_normalize (p : Path) : p.normalize.names = p.remains.kept :=
  foldl_normalizeStep_kept p.names ⟨0, []⟩

lemma normalize_normalize (p : Path) : p.normalize.normalize = p.normalize := by
  have hkept := names_normalize p
  rw [normalize, hkept, foldl_normalizeStep_self isPlain_of_mem_remains, ← hkept]

/-! ## Joining -/

lemma foldl_normalizeStep_filter (names kept : List String) :
    (names.filter (· ≠ ".")).foldl normalizeStep kept = names.foldl normalizeStep kept := by
  rw [List.foldl_filter]
  refine congrArg (fun f => names.foldl f kept) (funext₂ fun kept name => ?_)
  by_cases hsame : name = "."
  · subst hsame
    rfl
  · rw [decide_eq_true hsame, if_pos rfl]

/-- A path that is joined goes on where normalising has come to. -/
lemma normalize_join (hq : q.anchored = false) :
    (p.join q).normalize = ⟨p.anchored, q.names.foldl normalizeStep p.normalize.names⟩ := by
  rw [join, hq, if_neg Bool.false_ne_true]
  split_ifs with hempty
  · rw [Bool.and_eq_true, List.isEmpty_iff, Bool.not_eq_true'] at hempty
    rw [normalize, normalize, hempty.1, hempty.2, hq]
    rfl
  · rw [normalize, normalize, List.foldl_append, foldl_normalizeStep_filter]

lemma normalize_join_normalize (p q : Path) :
    (p.normalize.join q).normalize = (p.join q).normalize := by
  cases hq : q.anchored with
  | true => rw [join, join, hq]; rfl
  | false => rw [normalize_join hq, normalize_join hq, normalize_normalize]; rfl

/-! ## Written paths -/

lemma split_toString (h : ∀ n ∈ names, '/' ∉ n.toList) :
    Text.split (toString ⟨true, names⟩) '/' = "" :: if names = [] then [""] else names := by
  cases names with
  | nil => rfl
  | cons name rest =>
    have htext : toString ⟨true, name :: rest⟩ = "/".intercalate ("" :: name :: rest) := by
      rw [String.intercalate_cons_of_ne_nil (by simp), String.empty_append]
      rfl
    rw [htext, if_neg (by simp)]
    refine Text.split_intercalate (by simp) fun n hn => ?_
    rcases List.mem_cons.mp hn with rfl | hn
    · exact List.not_mem_nil
    · exact h n hn

/-- A name that is read as such between separators. -/
def IsWritable (name : String) : Prop := name ≠ "" ∧ name ≠ "." ∧ '/' ∉ name.toList

lemma filter_of_isWritable (h : ∀ n ∈ names, IsWritable n) :
    (names.filter fun n => n ≠ "" && n ≠ ".") = names :=
  List.filter_eq_self.mpr fun n hn => by simp [(h n hn).1, (h n hn).2.1]

lemma ofString_of_anchored {text : String} {rest : List Char} (h : text.toList = '/' :: rest) :
    ofString text = ⟨true, namesOf true (Text.split text '/')⟩ := by
  rw [ofString, h]
  rfl

lemma ofString_of_head_ne {text : String} (h : text.toList.head? ≠ some '/') :
    ofString text = ⟨false, namesOf false (Text.split text '/')⟩ := by
  rw [ofString]
  split
  case h_1 rest hrest => exact absurd (congrArg List.head? hrest) h
  case h_2 => rfl

lemma ofString_toString (h : ∀ n ∈ p.names, IsWritable n) : ofString p.toString = p := by
  obtain ⟨anchored, names⟩ := p
  have hseparator : ∀ n ∈ names, '/' ∉ n.toList := fun n hn => (h n hn).2.2
  cases anchored with
  | true =>
    have htext : (toString ⟨true, names⟩).toList = '/' :: ("/".intercalate names).toList := by
      rw [toString, if_pos rfl, String.toList_append]
      rfl
    rw [ofString_of_anchored htext, split_toString hseparator, namesOf, if_pos (by decide)]
    split_ifs with hempty
    · rw [hempty]
      rfl
    · rw [filter_of_isWritable h]
  | false =>
    cases names with
    | nil => rfl
    | cons first rest =>
      have htext : toString ⟨false, first :: rest⟩ =
          (String.singleton '/').intercalate (first :: rest) := String.empty_append
      have hsplit := Text.split_intercalate (List.cons_ne_nil first rest) hseparator
      obtain ⟨hne, -, hfirst⟩ := h first List.mem_cons_self
      have hhead : (toString ⟨false, first :: rest⟩).toList.head? ≠ some '/' := by
        rw [htext]
        intro hslash
        obtain ⟨tail, htail⟩ := List.head?_eq_some_iff.mp hslash
        rw [Text.split, htail, Text.pieces, if_pos (beq_self_eq_true _), List.map_cons] at hsplit
        exact hne (List.cons.inj hsplit).1.symm
      rw [ofString_of_head_ne hhead, htext, hsplit, namesOf, if_neg (by simpa using hne),
        filter_of_isWritable fun n hn => h n (List.mem_cons_of_mem _ hn)]

/-! ## Names of a text -/

lemma mem_of_mem_foldl_read {r : Remains} {n : String} (h : n ∈ (names.foldl Remains.read r).names) :
    n ∈ r.names ∨ n ∈ names := by
  induction names generalizing r with
  | nil => exact Or.inl h
  | cons name rest ih =>
    rcases ih h with h | h
    · rw [Remains.read] at h
      split_ifs at h with hsame hup hnone
      · exact Or.inl h
      · cases h
      · exact Or.inl (List.dropLast_subset _ h)
      · exact (List.mem_append.mp h).imp_right fun h =>
          List.mem_cons.mpr (Or.inl (List.mem_singleton.mp h))
    · exact Or.inr (List.mem_cons_of_mem _ h)

lemma mem_namesOf {anchored : Bool} {pieces : List String} {n : String}
    (h : n ∈ namesOf anchored pieces) : n ∈ pieces ∧ n ≠ "" := by
  cases pieces with
  | nil => cases h
  | cons first rest =>
    have hrest (h : n ∈ rest.filter fun n => n ≠ "" && n ≠ ".") : n ∈ first :: rest ∧ n ≠ "" := by
      obtain ⟨hmem, hkept⟩ := List.mem_filter.mp h
      exact ⟨List.mem_cons_of_mem _ hmem, by simpa using (Bool.and_eq_true_iff.mp hkept).1⟩
    rw [namesOf] at h
    split_ifs at h with hfirst
    · exact hrest h
    · rcases List.mem_cons.mp h with rfl | h
      · exact ⟨List.mem_cons_self, fun hempty => hfirst (by simp [hempty])⟩
      · exact hrest h

lemma names_ofString {text n : String} (h : n ∈ (ofString text).names) :
    n ≠ "" ∧ '/' ∉ n.toList := by
  have hpiece : n ∈ Text.split text '/' ∧ n ≠ "" := by
    rw [ofString] at h
    split at h <;> exact mem_namesOf h
  exact ⟨hpiece.2, Text.not_mem_of_mem_split hpiece.1⟩

lemma ofString_toString_normalize (text : String) :
    ofString (ofString text).normalize.toString = (ofString text).normalize := by
  refine ofString_toString fun n hn => ?_
  rw [names_normalize] at hn
  rcases List.mem_append.mp hn with hn | hn
  · rw [List.eq_of_mem_replicate hn]
    exact ⟨by decide, by decide, by decide⟩
  · have hplain := isPlain_of_mem_remains n hn
    have hname := (mem_of_mem_foldl_read hn).resolve_left List.not_mem_nil
    exact ⟨(names_ofString hname).1, hplain.1, (names_ofString hname).2⟩

end

end Path

namespace Resolution

/-- What an import resolves to depends on the directory of its file only up to normalising. -/
lemma resolve_normalize (directory : Path) (name specifier : String) (isKnown : Path → Bool)
    (defaultExtension : String) :
    resolve (directory.normalize.child name) specifier isKnown defaultExtension =
      resolve (directory.child name) specifier isKnown defaultExtension := by
  have hparent (d : Path) : (d.child name).parent? = some d := by
    simp [Path.parent?, Path.child]
  rw [resolve, resolve, hparent, hparent]
  dsimp only
  rw [Path.normalize_join_normalize]

end Resolution

/-- Normalising twice is normalising once, whether the path is kept or written out and read again.
What is joined to a path or to its normal form leads to the same path, so the imports of a file
resolve alike whether its directory is normal or not. -/
theorem Path.normalize_join_idem (p q : Path) :
    p.normalize.normalize = p.normalize ∧
      (∀ text, ofString (ofString text).normalize.toString = (ofString text).normalize) ∧
      (p.join q).normalize = (p.normalize.join q).normalize ∧
      ∀ name specifier isKnown defaultExtension,
        Resolution.resolve (p.child name) specifier isKnown defaultExtension =
          Resolution.resolve (p.normalize.child name) specifier isKnown defaultExtension := by
  exact ⟨normalize_normalize p, ofString_toString_normalize, (normalize_join_normalize p q).symm,
    fun name specifier isKnown defaultExtension =>
      (Resolution.resolve_normalize p name specifier isKnown defaultExtension).symm⟩

end ScriptSurvey
