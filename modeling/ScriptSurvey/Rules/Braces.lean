import ScriptSurvey.Text.Search

/-!
# Alternatives in braces

A glob may list alternatives between braces. It stands for one glob per choice.
-/
namespace ScriptSurvey.Braces

theorem cutAt_eq_some {c : Char} {text before after : List Char}
    (h : Text.cutAt c text = some (before, after)) : text = before ++ c :: after ∧ c ∉ before := by
  induction text generalizing before with
  | nil => simp [Text.cutAt] at h
  | cons d rest ih =>
    simp only [Text.cutAt] at h
    by_cases hd : (d == c) = true
    · rw [if_pos hd] at h
      simp only [Option.some.injEq, Prod.mk.injEq] at h
      obtain ⟨rfl, rfl⟩ := h
      simp [eq_of_beq hd]
    · rw [if_neg hd] at h
      obtain ⟨⟨a, b⟩, hab, hp⟩ := Option.map_eq_some_iff.1 h
      simp only [Prod.mk.injEq] at hp
      obtain ⟨rfl, rfl⟩ := hp
      obtain ⟨rfl, hm⟩ := ih hab
      have hne : c ≠ d := fun e => hd (by simp [e])
      simp [hm, hne]

theorem count_pieces_le {c d : Char} {text piece : List Char}
    (h : piece ∈ Text.pieces c text) : piece.count d ≤ text.count d := by
  induction text generalizing piece with
  | nil => simp_all [Text.pieces]
  | cons e rest ih =>
    simp only [Text.pieces] at h
    split at h
    · rcases List.mem_cons.1 h with rfl | h
      · simp
      · exact Nat.le_trans (ih h) (List.count_le_count_cons)
    · split at h
      · rename_i first others heq
        rcases List.mem_cons.1 h with rfl | h
        · have := @ih first (by simp [heq])
          simp only [List.count_cons]
          omega
        · exact Nat.le_trans (ih (by simp [heq, h])) (List.count_le_count_cons)
      · simp only [List.mem_singleton] at h
        subst h
        simp [List.count_cons]

/-- The text before the first opening brace, that up to the closing brace, and the rest. -/
def group? (glob : List Char) : Option (List Char × List Char × List Char) :=
  (Text.cutAt '\x7b' glob).bind fun (head, rest) =>
    (Text.cutAt '\x7d' rest).map fun (inner, tail) => (head, inner, tail)

theorem eq_of_group?_eq_some {glob head inner tail : List Char}
    (h : group? glob = some (head, inner, tail)) :
    glob = head ++ '\x7b' :: (inner ++ '\x7d' :: tail) := by
  obtain ⟨⟨a, rest⟩, hcut, hrest⟩ := Option.bind_eq_some_iff.1 h
  obtain ⟨⟨b, t⟩, hclose, hp⟩ := Option.map_eq_some_iff.1 hrest
  simp only [Prod.mk.injEq] at hp
  obtain ⟨rfl, rfl, rfl⟩ := hp
  rw [(cutAt_eq_some hcut).1, (cutAt_eq_some hclose).1]

/-- The globs that a glob stands for, in the order of the alternatives. Every choice takes a closing
brace away. -/
def expandChars (glob : List Char) : List (List Char) :=
  match _h : group? glob with
  | none => [glob]
  | some (head, inner, tail) =>
    (Text.pieces ',' inner).attach.flatMap fun ⟨alternative, _hm⟩ =>
      expandChars (head ++ alternative ++ tail)
termination_by glob.count '\x7d'
decreasing_by
  have hle := count_pieces_le (d := '\x7d') _hm
  rw [eq_of_group?_eq_some _h]
  simp only [List.count_append, List.count_cons_self, List.count_cons]
  simp
  omega

def expand (glob : String) : List String := (expandChars glob.toList).map String.ofList

end ScriptSurvey.Braces
