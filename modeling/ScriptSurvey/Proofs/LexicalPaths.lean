import Mathlib.Tactic.Common
import ScriptSurvey.Path

/-!
# Lexical paths

A path is read from left to right, and every `..` takes back the nearest name that is still there.
Normalising keeps the names that stay. Of the `..` that find no name it keeps none or one, as their
number is even or odd, for a `..` that was kept is taken back by the next one.
-/
namespace ScriptSurvey.Path

/-! ## Reading a path -/

/-- What is left of the names in front of a place in a path. -/
structure Remains where
  /-- The number of `..` that found no name. -/
  up : ℕ
  names : List String
  deriving DecidableEq, Repr

def Remains.read (r : Remains) (name : String) : Remains :=
  if name = "." then r
  else if name = ".." then
    if r.names = [] then ⟨r.up + 1, []⟩ else ⟨r.up, r.names.dropLast⟩
  else ⟨r.up, r.names ++ [name]⟩

def remains (p : Path) : Remains := p.names.foldl Remains.read ⟨0, []⟩

/-- The path with `..` in front only. There is nothing above the root, so an anchored path has
none. -/
def lexical (p : Path) : Path :=
  ⟨p.anchored,
    (if p.anchored then [] else List.replicate p.remains.up "..") ++ p.remains.names⟩

def IsPlain (name : String) : Prop := name ≠ "." ∧ name ≠ ".."

/-! ## What normalising keeps -/

def Remains.kept (r : Remains) : List String := List.replicate (r.up % 2) ".." ++ r.names

lemma normalizeStep_of_isPlain {name : String} (h : IsPlain name) (kept : List String) :
    normalizeStep kept name = kept ++ [name] := by
  unfold normalizeStep
  rw [if_neg h.1, if_neg h.2]

lemma normalizeStep_up_of_ne_nil {kept : List String} (h : kept ≠ []) :
    normalizeStep kept ".." = kept.dropLast := by
  obtain ⟨name, rest, rfl⟩ := List.exists_cons_of_ne_nil h
  rfl

/-- A second `..` takes back the first one. -/
lemma normalizeStep_replicate_up (n : ℕ) :
    normalizeStep (List.replicate (n % 2) "..") ".." = List.replicate ((n + 1) % 2) ".." := by
  rcases Nat.mod_two_eq_zero_or_one n with h | h
  · have hnext : (n + 1) % 2 = 1 := by omega
    rw [h, hnext]
    rfl
  · have hnext : (n + 1) % 2 = 0 := by omega
    rw [h, hnext]
    rfl

lemma normalizeStep_kept (r : Remains) (name : String) :
    normalizeStep r.kept name = (r.read name).kept := by
  by_cases hsame : name = "."
  · subst hsame
    rfl
  by_cases hup : name = ".."
  · subst hup
    by_cases hnone : r.names = []
    · rw [Remains.kept, hnone, List.append_nil, normalizeStep_replicate_up, Remains.read,
        if_neg hsame, if_pos rfl, if_pos hnone, Remains.kept, List.append_nil]
    · rw [normalizeStep_up_of_ne_nil (by simp [Remains.kept, hnone]), Remains.kept,
        List.dropLast_append_of_ne_nil hnone, Remains.read, if_neg hsame, if_pos rfl,
        if_neg hnone, Remains.kept]
  · rw [normalizeStep_of_isPlain ⟨hsame, hup⟩, Remains.read, if_neg hsame, if_neg hup,
      Remains.kept, Remains.kept, List.append_assoc]

lemma foldl_normalizeStep_kept (names : List String) (r : Remains) :
    names.foldl normalizeStep r.kept = (names.foldl Remains.read r).kept :=
  List.foldl_hom Remains.kept normalizeStep_kept

/-! ## Names that stay -/

lemma isPlain_of_mem_read {r : Remains} (h : ∀ n ∈ r.names, IsPlain n) (name : String) :
    ∀ n ∈ (r.read name).names, IsPlain n := by
  intro n hn
  rw [Remains.read] at hn
  split_ifs at hn with hsame hup hnone
  · exact h n hn
  · cases hn
  · exact h n (List.dropLast_subset _ hn)
  · rcases List.mem_append.mp hn with hn | hn
    · exact h n hn
    · rw [List.mem_singleton.mp hn]
      exact ⟨hsame, hup⟩

lemma isPlain_of_mem_remains {p : Path} : ∀ n ∈ p.remains.names, IsPlain n := by
  rw [remains]
  refine List.foldlRecOn p.names Remains.read (motive := fun r => ∀ n ∈ r.names, IsPlain n) ?_ ?_
  · exact fun n hn => absurd hn List.not_mem_nil
  · exact fun r h name _ => isPlain_of_mem_read h name

/-- Normalising keeps the names that stay, behind no `..` or one. It keeps the lexical meaning of a
path just when the `..` without a name are at most one or, below the root, even in number. -/
theorem normalize_remains (p : Path) :
    p.normalize = ⟨p.anchored, List.replicate (p.remains.up % 2) ".." ++ p.remains.names⟩ ∧
      (∀ n ∈ p.remains.names, n ≠ "." ∧ n ≠ "..") ∧
      (p.normalize = p.lexical ↔ if p.anchored then p.remains.up % 2 = 0 else p.remains.up ≤ 1) := by
  have hkept : p.normalize = ⟨p.anchored, p.remains.kept⟩ :=
    congrArg (Path.mk p.anchored) (foldl_normalizeStep_kept p.names ⟨0, []⟩)
  have hmeaning : p.normalize = p.lexical ↔
      List.replicate (p.remains.up % 2) ".." =
        if p.anchored then [] else List.replicate p.remains.up ".." := by
    rw [hkept, lexical, Path.mk.injEq, Remains.kept, List.append_left_inj]
    exact and_iff_right rfl
  refine ⟨hkept, fun n => isPlain_of_mem_remains n, hmeaning.trans ?_⟩
  split_ifs
  · rw [List.replicate_eq_nil_iff]
  · rw [List.replicate_inj]
    constructor
    · rintro ⟨hup, -⟩
      omega
    · intro hup
      exact ⟨by omega, .inr rfl⟩

/-- A `..` is taken back by the next one, and stands at the root. -/
theorem normalize_up_up :
    let above := ofString "../../x"
    let aboveRoot := ofString "/../x"
    above.lexical = above ∧ above.normalize = ofString "x" ∧
      aboveRoot.lexical = ofString "/x" ∧ aboveRoot.normalize = aboveRoot := by
  decide +kernel

end ScriptSurvey.Path
