import Mathlib.Tactic.Common
import ScriptSurvey.Rules.Markup

/-!
# The depth of a tag

What a bracket does to the depth of a tag is told by the name behind it, or behind the slash after
it. The scan passes over a name that it has counted. But a name holds no bracket, and so the depth
of a text is summed up over all its brackets.
-/
namespace ScriptSurvey.Markup

/-! ## Names -/

def isNameChar (c : Char) : Bool := !endsName [c]

def nameOf (text : List Char) : List Char := text.takeWhile isNameChar

/-- The name of a tag has no bracket, no slash and no blank. -/
structure IsName (tag : List Char) : Prop where
  ne_nil : tag ≠ []
  notMem_bracket : '<' ∉ tag
  isNameChar : ∀ c ∈ tag, isNameChar c = true

section

variable {tag text rest : List Char} {c : Char}

instance : Decidable (IsName tag) :=
  decidable_of_iff (tag ≠ [] ∧ '<' ∉ tag ∧ tag.all isNameChar = true)
    ⟨fun ⟨h₁, h₂, h₃⟩ => ⟨h₁, h₂, List.all_eq_true.mp h₃⟩,
      fun ⟨h₁, h₂, h₃⟩ => ⟨h₁, h₂, List.all_eq_true.mpr h₃⟩⟩

lemma isNameChar_slash : isNameChar '/' = false := rfl

lemma endsName_cons : endsName (c :: rest) = !isNameChar c := (Bool.not_not _).symm

lemma endsName_iff : endsName text = true ↔ nameOf text = [] := by
  cases text with
  | nil => simp [endsName, nameOf]
  | cons c rest => cases hc : isNameChar c <;> simp [endsName_cons, nameOf, hc]

/-- A text begins with the name and then something that ends it just when this is the name that it
begins with. -/
lemma isPrefixOf_and_endsName_iff (h : ∀ c ∈ tag, isNameChar c = true) :
    (tag.isPrefixOf text && endsName (text.drop tag.length)) = true ↔ nameOf text = tag := by
  induction tag generalizing text with
  | nil => simp [endsName_iff]
  | cons c tag ih =>
    rw [List.forall_mem_cons] at h
    cases text with
    | nil => simp [nameOf]
    | cons d rest =>
      by_cases hd : c = d
      · subst hd
        simpa [nameOf, h.1] using @ih rest h.2
      · cases hchar : isNameChar d <;> simp [nameOf, hchar, hd, Ne.symm hd]

lemma nameOf_append (hname : ∀ c ∈ tag, isNameChar c = true) (hrest : endsName rest = true) :
    nameOf (tag ++ rest) = tag := by
  rw [nameOf, List.takeWhile_append_of_pos hname, ← nameOf, endsName_iff.mp hrest, List.append_nil]

/-! ## The change at a bracket -/

lemma tagChange_slash (h : IsName tag) :
    (tagChange tag ('/' :: rest)).1 = if nameOf rest = tag then -1 else 0 := by
  have hclose : (('/' :: tag).isPrefixOf ('/' :: rest) &&
      endsName (('/' :: rest).drop (tag.length + 1))) = true ↔ nameOf rest = tag := by
    simpa using isPrefixOf_and_endsName_iff h.isNameChar
  have hopen :
      ¬ (tag.isPrefixOf ('/' :: rest) && endsName (('/' :: rest).drop tag.length)) = true := by
    rw [isPrefixOf_and_endsName_iff h.isNameChar]
    exact h.ne_nil.symm
  rw [tagChange]
  simp only [hclose, if_neg hopen]
  split_ifs <;> rfl

lemma tagChange_of_not_slash (h : IsName tag) (hslash : text.head? ≠ some '/') :
    (tagChange tag text).1 = if nameOf text = tag then 1 else 0 := by
  have hclose :
      ¬ (('/' :: tag).isPrefixOf text && endsName (text.drop (tag.length + 1))) = true := by
    cases text with
    | nil => simp
    | cons c rest =>
      have hc : '/' ≠ c := fun heq => hslash (congrArg some heq.symm)
      simp [hc]
  rw [tagChange, if_neg hclose]
  simp only [isPrefixOf_and_endsName_iff h.isNameChar]
  split_ifs <;> rfl

lemma notMem_take_tagChange (h : '<' ∉ tag) : '<' ∉ text.take (tagChange tag text).2 := by
  rw [tagChange]
  split_ifs with hclose hopen
  · have hprefix := List.isPrefixOf_iff_prefix.mp (Bool.and_eq_true_iff.mp hclose).1
    rw [← List.length_cons (a := '/'), ← List.prefix_iff_eq_take.mp hprefix]
    simpa using h
  · have hprefix := List.isPrefixOf_iff_prefix.mp (Bool.and_eq_true_iff.mp hopen).1
    rwa [← List.prefix_iff_eq_take.mp hprefix]
  · simp

/-! ## The scan -/

lemma depthFrom_cons (hc : '<' ≠ c) : depthFrom tag 0 (c :: rest) = depthFrom tag 0 rest :=
  if_neg (by simpa using hc.symm)

/-- Characters that are passed over change nothing when they hold no bracket. -/
lemma depthFrom_of_plain {skip : ℕ} (h : '<' ∉ text.take skip) :
    depthFrom tag skip text = depthFrom tag 0 text := by
  induction text generalizing skip with
  | nil => cases skip <;> rfl
  | cons c rest ih =>
    cases skip with
    | zero => rfl
    | succ skip =>
      rw [List.take_succ_cons, List.mem_cons, not_or] at h
      rw [depthFrom, ih h.2, depthFrom_cons h.1]

lemma depthFrom_bracket (h : '<' ∉ tag) : depthFrom tag 0 ('<' :: rest) =
    (tagChange tag rest).1 + depthFrom tag 0 rest := by
  rw [depthFrom, if_pos (beq_self_eq_true _)]
  exact congrArg ((tagChange tag rest).1 + ·) (depthFrom_of_plain (notMem_take_tagChange h))

lemma depthFrom_append (h : '<' ∉ text) :
    depthFrom tag 0 (text ++ rest) = depthFrom tag 0 rest := by
  induction text with
  | nil => rfl
  | cons c text ih =>
    rw [List.mem_cons, not_or] at h
    rw [List.cons_append, depthFrom_cons h.1, ih h.2]

end

end ScriptSurvey.Markup
