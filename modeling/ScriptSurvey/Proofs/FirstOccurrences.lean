import Mathlib.Data.List.Induction
import Mathlib.Data.List.Nodup
import Mathlib.Data.List.Perm.Subperm
import Mathlib.Tactic.Common

/-!
# First occurrences

Several passes keep of each list the elements whose key has not come before. `keepFirst` is that
fold; it is sound, complete, without repetition, and keeps the order of the first positions.
-/
namespace ScriptSurvey

/-- The elements that are not the same as an earlier one. -/
def keepFirst {α : Type} (same : α → α → Bool) (l : List α) : List α :=
  l.foldl (fun kept e => if kept.any (same · e) then kept else kept ++ [e]) []

section

variable {α κ : Type} {same : α → α → Bool} {key : α → κ}

lemma keepFirst_append_singleton (l : List α) (e : α) :
    keepFirst same (l ++ [e]) =
      if (keepFirst same l).any (same · e) then keepFirst same l else keepFirst same l ++ [e] := by
  simp [keepFirst, List.foldl_append]

lemma keepFirst_sublist (l : List α) : (keepFirst same l).Sublist l := by
  induction l using List.reverseRecOn with
  | nil => simp [keepFirst]
  | append_singleton l e ih =>
    rw [keepFirst_append_singleton]
    split_ifs
    · exact ih.trans (List.sublist_append_left _ _)
    · exact ih.append_right [e]

/-- Whether elements are the same may be decided on what a function makes of them. -/
lemma map_keepFirst {β : Type} (same' : β → β → Bool) {f : α → β}
    (hf : ∀ a b, same' (f a) (f b) = same a b) (l : List α) :
    (keepFirst same l).map f = keepFirst same' (l.map f) := by
  induction l using List.reverseRecOn with
  | nil => rfl
  | append_singleton l e ih =>
    have hany : (keepFirst same' (l.map f)).any (same' · (f e)) =
        (keepFirst same l).any (same · e) := by
      rw [← ih, List.any_map]
      congr 1
      exact funext fun a => hf a e
    rw [List.map_append, List.map_singleton, keepFirst_append_singleton, keepFirst_append_singleton,
      hany, ← ih]
    split_ifs <;> simp

variable (hsame : ∀ a b, same a b = true ↔ key a = key b)
include hsame

lemma any_same_iff (l : List α) (e : α) : l.any (same · e) = true ↔ key e ∈ l.map key := by
  simp only [List.any_eq_true, hsame, List.mem_map]

lemma mem_map_keepFirst (l : List α) (k : κ) :
    k ∈ (keepFirst same l).map key ↔ k ∈ l.map key := by
  induction l using List.reverseRecOn with
  | nil => simp [keepFirst]
  | append_singleton l e ih =>
    rw [keepFirst_append_singleton]
    split_ifs with h
    · have he : key e ∈ l.map key := by
        rw [any_same_iff hsame, List.mem_map] at h
        obtain ⟨b, hb, hkey⟩ := h
        exact List.mem_map.mpr ⟨b, (keepFirst_sublist l).subset hb, hkey⟩
      rw [ih, List.map_append, List.mem_append]
      constructor
      · exact Or.inl
      · rintro (hk | hk)
        · exact hk
        · simp only [List.map_singleton, List.mem_singleton] at hk
          exact hk ▸ he
    · simp only [List.map_append, List.mem_append, ih]

lemma nodup_map_keepFirst (l : List α) : ((keepFirst same l).map key).Nodup := by
  induction l using List.reverseRecOn with
  | nil => simp [keepFirst]
  | append_singleton l e ih =>
    rw [keepFirst_append_singleton]
    split_ifs with h
    · exact ih
    · rw [any_same_iff hsame] at h
      rw [List.map_append, List.map_singleton]
      exact List.nodup_append.mpr ⟨ih, List.nodup_singleton _, by
        rintro a ha b hb rfl
        exact h (List.mem_singleton.mp hb ▸ ha)⟩

lemma mem_keepFirst_iff (l : List α) (e : α) :
    e ∈ keepFirst same l ↔ l.find? (same · e) = some e := by
  induction l using List.reverseRecOn with
  | nil => simp [keepFirst]
  | append_singleton l a ih =>
    have hself : same e e = true := (hsame e e).mpr rfl
    rw [keepFirst_append_singleton, List.find?_append]
    cases hf : l.find? (same · e) with
    | some b =>
      have hb : same b e = true := by simpa using List.find?_some hf
      have hkey : key e ∈ (keepFirst same l).map key :=
        (mem_map_keepFirst hsame l _).mpr
          (List.mem_map.mpr ⟨b, List.mem_of_find?_eq_some hf, (hsame b e).mp hb⟩)
      rw [hf] at ih
      rw [Option.some_or, ← ih]
      split_ifs with h
      · rfl
      · rw [any_same_iff hsame] at h
        have hne : e ≠ a := fun he => h (he ▸ hkey)
        simp [hne]
    | none =>
      rw [hf] at ih
      have hnot : e ∉ keepFirst same l := by simp [ih]
      have hkey : key e ∉ (keepFirst same l).map key := by
        rw [mem_map_keepFirst hsame, List.mem_map]
        rintro ⟨b, hb, hbe⟩
        exact List.find?_eq_none.mp hf b hb ((hsame b e).mpr hbe)
      rw [Option.none_or, List.find?_singleton]
      split_ifs with h hae hae
      · rw [any_same_iff hsame, (hsame a e).mp hae] at h
        exact absurd h hkey
      · simp [hnot]
      · simp [hnot, eq_comm]
      · have hne : e ≠ a := fun he => hae (he ▸ hself)
        simp [hnot, hne]

/-- Where a rank goes up along a list, the kept elements are those of the least rank for their key. -/
lemma mem_keepFirst_iff_of_rank {rank : α → ℕ} {l : List α}
    (hl : l.Pairwise fun a b => rank a < rank b) (e : α) :
    e ∈ keepFirst same l ↔ e ∈ l ∧ ∀ a ∈ l, key a = key e → rank e ≤ rank a := by
  rw [mem_keepFirst_iff hsame, List.find?_eq_some_iff_append]
  constructor
  · rintro ⟨-, front, back, rfl, hfront⟩
    refine ⟨by simp, fun a ha hkey => ?_⟩
    rw [List.pairwise_append, List.pairwise_cons] at hl
    rcases List.mem_append.mp ha with ha | ha
    · have hnot := hfront a ha
      simp [(hsame a e).mpr hkey] at hnot
    · rcases List.mem_cons.mp ha with rfl | ha
      · exact Nat.le_refl _
      · exact Nat.le_of_lt (hl.2.1.1 a ha)
  · rintro ⟨he, hleast⟩
    obtain ⟨front, back, rfl⟩ := List.append_of_mem he
    refine ⟨(hsame e e).mpr rfl, front, back, rfl, fun a ha => ?_⟩
    rw [Bool.not_eq_true', Bool.eq_false_iff, ne_eq, hsame]
    intro hkey
    have hle := hleast a (List.mem_append_left _ ha) hkey
    exact absurd ((List.pairwise_append.mp hl).2.2 a ha e (List.mem_cons_self ..)) (by omega)

/-- Choosing before first elements are kept chooses more: an element may be kept whose key one that is
left out had first. -/
lemma filter_keepFirst_sublist (p : α → Bool) (l : List α) :
    ((keepFirst same l).filter p).Sublist (keepFirst same (l.filter p)) := by
  induction l using List.reverseRecOn with
  | nil => simp [keepFirst]
  | append_singleton l e ih =>
    have hgrown : (keepFirst same (l.filter p)).Sublist (keepFirst same ((l ++ [e]).filter p)) := by
      rw [List.filter_append]
      by_cases he : p e = true
      · rw [List.filter_cons_of_pos he, List.filter_nil, keepFirst_append_singleton]
        split_ifs
        · exact List.Sublist.refl _
        · exact List.sublist_append_left _ _
      · rw [List.filter_cons_of_neg he, List.filter_nil, List.append_nil]
    rw [keepFirst_append_singleton]
    split_ifs with h
    · exact ih.trans hgrown
    · rw [List.filter_append]
      by_cases he : p e = true
      · have hnew : (keepFirst same (l.filter p)).any (same · e) = false := by
          rw [Bool.eq_false_iff, ne_eq, any_same_iff hsame, mem_map_keepFirst hsame]
          rw [any_same_iff hsame, mem_map_keepFirst hsame] at h
          exact fun hmem => h (List.map_subset key (List.filter_subset_self l) hmem)
        rw [List.filter_append, List.filter_cons_of_pos he, List.filter_nil,
          keepFirst_append_singleton, hnew]
        exact ih.append_right [e]
      · rw [List.filter_cons_of_neg he, List.filter_nil, List.append_nil]
        exact ih.trans hgrown

lemma eq_of_mem_keepFirst {l : List α} {a b : α} (ha : a ∈ keepFirst same l)
    (hb : b ∈ keepFirst same l) (h : key a = key b) : a = b :=
  List.inj_on_of_nodup_map (nodup_map_keepFirst hsame l) ha hb h

/-- The two orders agree where the first element of each chosen key is chosen. -/
lemma filter_keepFirst_eq_iff (p : α → Bool) (l : List α) :
    (keepFirst same l).filter p = keepFirst same (l.filter p) ↔
      ∀ a ∈ keepFirst same l, ∀ b ∈ l, key a = key b → p b = true → p a = true := by
  constructor
  · intro h a ha b hb hkey hp
    have hkept : key b ∈ (keepFirst same (l.filter p)).map key :=
      (mem_map_keepFirst hsame _ _).mpr
        (List.mem_map.mpr ⟨b, List.mem_filter.mpr ⟨hb, hp⟩, rfl⟩)
    rw [← h] at hkept
    obtain ⟨c, hc, hckey⟩ := List.mem_map.mp hkept
    obtain ⟨hc, hpc⟩ := List.mem_filter.mp hc
    rwa [eq_of_mem_keepFirst hsame ha hc (hkey.trans hckey.symm)]
  · intro h
    refine (filter_keepFirst_sublist hsame p l).eq_of_length_le ?_
    have hnodup : (keepFirst same (l.filter p)).Nodup := (nodup_map_keepFirst hsame _).of_map
    refine (hnodup.subperm fun e he => ?_).length_le
    have hchosen := (keepFirst_sublist (l.filter p)).subset he
    obtain ⟨hmem, hp⟩ := List.mem_filter.mp hchosen
    obtain ⟨a, ha, hkey⟩ := List.mem_map.mp
      ((mem_map_keepFirst hsame l (key e)).mpr (List.mem_map.mpr ⟨e, hmem, rfl⟩))
    have hpa := h a ha e hmem hkey hp
    have hmem' := List.mem_filter.mpr ⟨ha, hpa⟩
    rwa [← eq_of_mem_keepFirst hsame ((filter_keepFirst_sublist hsame p l).subset hmem') he hkey]

lemma pairwise_findIdx_keepFirst (l : List α) :
    (keepFirst same l).Pairwise fun a b => l.findIdx (same · a) < l.findIdx (same · b) := by
  induction l using List.reverseRecOn with
  | nil => simp [keepFirst]
  | append_singleton l e ih =>
    have hfound : ∀ a ∈ keepFirst same l, l.findIdx (same · a) < l.length := fun a ha =>
      List.findIdx_lt_length_of_exists
        ⟨a, (keepFirst_sublist l).subset ha, (hsame a a).mpr rfl⟩
    have hold : (keepFirst same l).Pairwise fun a b =>
        (l ++ [e]).findIdx (same · a) < (l ++ [e]).findIdx (same · b) := by
      refine ih.imp_of_mem ?_
      intro a b ha hb hab
      rw [List.findIdx_append, List.findIdx_append, if_pos (hfound a ha), if_pos (hfound b hb)]
      exact hab
    rw [keepFirst_append_singleton]
    split_ifs with h
    · exact hold
    · rw [any_same_iff hsame, mem_map_keepFirst hsame] at h
      refine List.pairwise_append.mpr ⟨hold, List.pairwise_singleton _ _, ?_⟩
      intro a ha b hb
      obtain rfl := List.mem_singleton.mp hb
      have hnone : l.findIdx (same · b) = l.length := by
        rw [List.findIdx_eq_length]
        intro x hx
        rw [Bool.eq_false_iff, ne_eq, hsame]
        exact fun hxb => h (List.mem_map.mpr ⟨x, hx, hxb⟩)
      rw [List.findIdx_append, List.findIdx_append, if_pos (hfound a ha), hnone,
        if_neg (Nat.lt_irrefl _)]
      exact Nat.lt_add_left _ (hfound a ha)

end

/-! ## Plain repetitions -/

section

variable {α : Type} [BEq α] [LawfulBEq α]

lemma eraseDups_concat (l : List α) (a : α) :
    (l ++ [a]).eraseDups = if a ∈ l then l.eraseDups else l.eraseDups ++ [a] := by
  rw [List.eraseDups_append]
  split_ifs with ha <;> simp [List.removeAll, List.eraseDups_cons, ha]

lemma nodup_eraseDups (l : List α) : l.eraseDups.Nodup := by
  induction l using List.reverseRecOn with
  | nil => exact List.nodup_nil
  | append_singleton l a ih =>
    rw [eraseDups_concat]
    split_ifs with ha
    · exact ih
    · rw [← List.concat_eq_append]
      exact ih.concat (by rwa [List.mem_eraseDups])

lemma length_eraseDups_iff {l : List α} : l.eraseDups.length = l.length ↔ l.Nodup := by
  constructor
  · intro hlength
    have hsub := (nodup_eraseDups l).subperm fun a ha => List.mem_eraseDups.mp ha
    exact (hsub.perm_of_length_le (Nat.le_of_eq hlength.symm)).nodup_iff.mp (nodup_eraseDups l)
  · intro h
    exact ((List.perm_ext_iff_of_nodup (nodup_eraseDups l) h).mpr fun a =>
      List.mem_eraseDups).length_eq

lemma two_le_length_eraseDups_iff {l : List α} :
    2 ≤ l.eraseDups.length ↔ ∃ a ∈ l, ∃ b ∈ l, a ≠ b := by
  have hnodup := nodup_eraseDups l
  simp only [← List.mem_eraseDups (l := l)]
  match l.eraseDups, hnodup with
  | [], _ => simp
  | [a], _ => simp
  | a :: b :: rest, h =>
    have hab : a ≠ b := fun hab => (List.nodup_cons.mp h).1 (hab ▸ List.mem_cons_self ..)
    exact iff_of_true (by simp) ⟨a, by simp, b, by simp, hab⟩

/-- The place of an element among the distinct ones is the number of distinct elements before its
first occurrence. -/
lemma idxOf_eraseDups {l : List α} {a : α} (ha : a ∈ l) :
    l.eraseDups.idxOf a = (l.takeWhile (· != a)).eraseDups.length := by
  obtain ⟨front, rest, rfl, hfront⟩ := List.eq_append_cons_of_mem ha
  have hbefore : (front ++ a :: rest).takeWhile (· != a) = front := by
    rw [List.takeWhile_append_of_pos, List.takeWhile_cons_of_neg (by simp), List.append_nil]
    intro b hb
    exact bne_iff_ne.mpr fun hba => hfront (hba ▸ hb)
  have hnew : a ∉ front.eraseDups := by rwa [List.mem_eraseDups]
  have hhead : (a :: rest).removeAll front = a :: rest.removeAll front := by
    simp [List.removeAll, hfront]
  rw [hbefore, List.eraseDups_append, hhead, List.eraseDups_cons, List.idxOf_append,
    if_neg hnew, List.idxOf_cons_self, Nat.zero_add]

end

/-! ## Distinct keys -/

section

variable {α κ : Type} {key : α → κ} {l : List α}

lemma find?_eq_some_of_nodup_map [BEq κ] [LawfulBEq κ] (h : (l.map key).Nodup) {a : α}
    (ha : a ∈ l) : l.find? (key · == key a) = some a := by
  cases hfind : l.find? (key · == key a) with
  | none => exact absurd BEq.rfl (List.find?_eq_none.mp hfind a ha)
  | some other =>
    have hkey : key other = key a := by simpa using List.find?_some hfind
    rw [List.inj_on_of_nodup_map h (List.mem_of_find?_eq_some hfind) ha hkey]

lemma lookup_cons_eq [DecidableEq κ] (k other : κ) (a : α) (entries : List (κ × α)) :
    ((other, a) :: entries).lookup k = if k = other then some a else entries.lookup k := by
  rw [List.lookup_cons]
  by_cases h : k = other
  · simp [h]
  · rw [beq_false_of_ne h, if_neg h]

lemma lookup_eq_some_iff_mem [BEq κ] [LawfulBEq κ] {entries : List (κ × α)} {k : κ} {a : α}
    (h : (entries.map Prod.fst).Nodup) : entries.lookup k = some a ↔ (k, a) ∈ entries := by
  rw [List.lookup_eq_some_iff]
  constructor
  · rintro ⟨front, back, rfl, -⟩
    simp
  · intro hmem
    obtain ⟨front, back, rfl⟩ := List.append_of_mem hmem
    refine ⟨front, back, rfl, fun e he => bne_iff_ne.mpr fun hsame => ?_⟩
    rw [List.map_append, List.map_cons, List.nodup_middle, List.nodup_cons] at h
    exact h.1 (List.mem_append_left _ (List.mem_map.mpr ⟨e, he, hsame.symm⟩))

/-- Where no key comes twice, chosen elements are told by their keys. -/
lemma map_filter_eq_iff (h : (l.map key).Nodup) {p q : α → Bool} :
    (l.filter p).map key = (l.filter q).map key ↔ ∀ a ∈ l, p a = q a := by
  have hmem : ∀ (r : α → Bool), ∀ a ∈ l, r a = true ↔ key a ∈ (l.filter r).map key := by
    intro r a ha
    rw [List.mem_map]
    constructor
    · exact fun hr => ⟨a, List.mem_filter.mpr ⟨ha, hr⟩, rfl⟩
    · rintro ⟨b, hb, hkey⟩
      obtain ⟨hb, hr⟩ := List.mem_filter.mp hb
      rwa [← List.inj_on_of_nodup_map h hb ha hkey]
  constructor
  · intro heq a ha
    rw [Bool.eq_iff_iff, hmem p a ha, hmem q a ha, heq]
  · exact fun hall => congrArg (List.map key) (List.filter_congr hall)

/-- Where no key comes twice, the elements of one key do not depend on the order of the list. -/
lemma filter_key_eq_of_perm [DecidableEq κ] {l' : List α} (hperm : l'.Perm l)
    (h : (l.map key).Nodup) (k : κ) :
    l'.filter (key · == k) = l.filter (key · == k) := by
  have hfiltered := hperm.filter (key · == k)
  have hnodup : ((l.filter (key · == k)).map key).Nodup := h.sublist (List.filter_sublist.map key)
  have hkey : ∀ a ∈ l.filter (key · == k), key a = k := fun a ha =>
    beq_iff_eq.mp (List.mem_filter.mp ha).2
  generalize l.filter (key · == k) = chosen at hfiltered hnodup hkey
  match chosen with
  | [] => exact List.perm_nil.mp hfiltered
  | [a] => exact List.perm_singleton.mp hfiltered
  | a :: b :: _ =>
    have hsame : key a = key b := (hkey a (by simp)).trans (hkey b (by simp)).symm
    simp [hsame] at hnodup

end

/-! ## Numbered elements -/

lemma pairwise_snd_zipIdx {α : Type} (l : List α) : l.zipIdx.Pairwise fun a b => a.2 < b.2 :=
  List.pairwise_map.mp (by rw [List.zipIdx_map_snd]; exact List.pairwise_lt_range')

/-! ## First hits -/

section

variable {α β : Type} {f : α → Option β} {p q : β → Bool}

lemma findIdx_lt_of_filterMap (l : List α)
    (h : (l.filterMap f).findIdx p < (l.filterMap f).findIdx q) :
    l.findIdx (fun a => (f a).any p) < l.findIdx (fun a => (f a).any q) := by
  induction l with
  | nil => simp at h
  | cons a l ih =>
    rw [List.findIdx_cons, List.findIdx_cons]
    cases hfa : f a with
    | none =>
      rw [List.filterMap_cons_none hfa] at h
      simpa using ih h
    | some b =>
      rw [List.filterMap_cons_some hfa, List.findIdx_cons, List.findIdx_cons] at h
      cases hp : p b <;> cases hq : q b <;> simp only [hp, hq, cond_true, cond_false] at h ⊢
      · simpa [hp, hq] using ih (by omega)
      · omega
      · simp [hp, hq]
      · omega

end

end ScriptSurvey
