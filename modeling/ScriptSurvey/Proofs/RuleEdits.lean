import Mathlib.Data.List.Nodup
import Mathlib.Tactic.Common
import ScriptSurvey.Proofs.StoredSets

/-!
# Changes of rule sets

A request adds a rule to a set, patches one or takes one away. What becomes of the rules is told by
`Edits`, with the one rule that a request is about between the others. An edit leaves all else of the
set as it is, keeps rule identifiers distinct, and keeps a set one that can be stored.
-/
namespace ScriptSurvey

/-! ## Patched rules -/

namespace RulePatch

/-- A value that is given takes the place of the old one. -/
def Replaces {α : Type} (given : Option α) (old new : α) : Prop :=
  (∀ a, given = some a → new = a) ∧ (given = none → new = old)

structure Patches (patch : RulePatch) (old new : Rule) : Prop where
  id : new.id = old.id
  pattern : Replaces patch.pattern old.pattern new.pattern
  kind : Replaces patch.kind old.kind new.kind
  severity : Replaces patch.severity old.severity new.severity
  message : Replaces (patch.message.map some) old.message new.message
  replacement : Replaces (patch.replacement.map some) old.replacement new.replacement
  files : Replaces (patch.files.map some) old.files new.files
  exclude : Replaces patch.exclude old.exclude new.exclude
  context : Replaces (patch.context.map some) old.context new.context
  extra : new.extra = old.extra

lemma replaces_getD {α : Type} (given : Option α) (old : α) : Replaces given old (given.getD old) := by
  cases given with
  | none => simp [Replaces]
  | some a => simp [Replaces]

lemma replaces_or {α : Type} (given old : Option α) :
    Replaces (given.map some) old (given.or old) := by
  cases given with
  | none => simp [Replaces]
  | some a => simp [Replaces]

lemma patches_apply (patch : RulePatch) (rule : Rule) : patch.Patches rule (patch.apply rule) where
  id := rfl
  pattern := replaces_getD _ _
  kind := replaces_getD _ _
  severity := replaces_getD _ _
  message := replaces_or _ _
  replacement := replaces_or _ _
  files := replaces_or _ _
  exclude := replaces_getD _ _
  context := replaces_or _ _
  extra := rfl

end RulePatch

namespace RuleStore

/-! ## Requests -/

inductive Request where
  | add (setName : String) (rule : Rule)
  | update (setName id : String) (patch : RulePatch)
  | delete (setName id : String)

namespace Request

/-- A rule that is added has unknown extra fields. -/
def Sound : Request → Prop
  | add _ rule => rule.Sound
  | update .. | delete .. => True

def setName : Request → String
  | add setName _ | update setName .. | delete setName _ => setName

def edit (request : Request) (set : RuleSet) : Except Error RuleSet :=
  match request with
  | add setName rule => do
    compiles setName rule
    if (set.rule? rule.id).isSome then throw (.duplicateRule setName rule.id)
    return { set with rules := set.rules ++ [rule] }
  | update setName id patch => do
    let (rule, place) ← existingRule set setName id
    compiles setName (patch.apply rule)
    return { set with rules := set.rules.set place (patch.apply rule) }
  | delete setName id => do
    let (_, place) ← existingRule set setName id
    return { set with rules := set.rules.eraseIdx place }

/-- What a request makes of the rules of a set. The rule it is about is the only one with its
identifier, and one that is written compiles. -/
inductive Edits : Request → List Rule → List Rule → Prop
  | add {setName : String} {rule : Rule} {rules : List Rule}
      (hnew : ∀ other ∈ rules, other.id ≠ rule.id)
      (hcompiles : ∃ compiled, CompiledRule.compile setName rule = .ok compiled) :
      Edits (add setName rule) rules (rules ++ [rule])
  | update {setName id : String} {patch : RulePatch} {rule patched : Rule} {front back : List Rule}
      (hid : rule.id = id) (honly : ∀ other ∈ front ++ back, other.id ≠ id)
      (hpatch : patch.Patches rule patched)
      (hcompiles : ∃ compiled, CompiledRule.compile setName patched = .ok compiled) :
      Edits (update setName id patch) (front ++ rule :: back) (front ++ patched :: back)
  | delete {setName id : String} {rule : Rule} {front back : List Rule}
      (hid : rule.id = id) (honly : ∀ other ∈ front ++ back, other.id ≠ id) :
      Edits (delete setName id) (front ++ rule :: back) (front ++ back)

end Request

/-! ## Steps that can fail -/

section

variable {ε α β : Type} {b : β} {x : Except ε α}

lemma exists_of_isOk (h : x.isOk = true) : ∃ a, x = .ok a := by
  cases x with
  | error e => cases h
  | ok a => exact ⟨a, rfl⟩

lemma exists_of_not_isOk (h : x.isOk = false) : ∃ e, x = .error e := by
  cases x with
  | error e => exact ⟨e, rfl⟩
  | ok a => cases h

lemma bind_eq_ok {f : α → Except ε β} :
    x >>= f = .ok b ↔ ∃ a, x = .ok a ∧ f a = .ok b := by
  cases x with
  | error e => simp [bind, Except.bind]
  | ok a => simp [bind, Except.bind]

lemma guard_eq_ok {c : Prop} [Decidable c] {e : ε} {f : α → Except ε β} {y : Except ε β} :
    (if c then throw e >>= f else y) = .ok b ↔ ¬ c ∧ y = .ok b := by
  split_ifs with hc
  · exact iff_of_false nofun fun h => h.1 hc
  · exact (and_iff_right hc).symm

end

section

variable {set new : RuleSet} {setName id : String} {rule : Rule} {found : Rule × Nat}
  {request : Request} {rules after : List Rule}

lemma compiles_eq_ok {u : Unit} :
    compiles setName rule = .ok u ↔ ∃ compiled, CompiledRule.compile setName rule = .ok compiled := by
  rw [compiles]
  cases CompiledRule.compile setName rule with
  | error fault => simp
  | ok compiled => simp

lemma existingRule_spec (h : existingRule set setName id = .ok found) :
    set.rules[found.2]? = some found.1 ∧ found.1.id = id := by
  rw [existingRule] at h
  split at h
  case h_1 place rule hplace hrule =>
    obtain rfl := Except.ok.inj h
    have hid : rule.id = id := by simpa using List.find?_some hrule
    rw [RuleSet.rule?, List.find?_eq_bind_findIdx?_getElem?, hplace, Option.bind_some] at hrule
    exact ⟨hrule, hid⟩
  case h_2 => cases h

lemma existingRule_split (hids : set.DistinctIds) (h : existingRule set setName id = .ok found) :
    ∃ front back, set.rules = front ++ found.1 :: back ∧ front.length = found.2 ∧ found.1.id = id ∧
      ∀ other ∈ front ++ back, other.id ≠ id := by
  obtain ⟨hplace, hid⟩ := existingRule_spec h
  obtain ⟨hlt, hrule⟩ := List.getElem?_eq_some_iff.mp hplace
  have hsplit : set.rules = set.rules.take found.2 ++ found.1 :: set.rules.drop (found.2 + 1) := by
    have hdrop := List.drop_eq_getElem_cons hlt
    rw [hrule] at hdrop
    rw [← hdrop, List.take_append_drop]
  refine ⟨_, _, hsplit, List.length_take_of_le (Nat.le_of_lt hlt), hid, ?_⟩
  intro other hother hsame
  rw [RuleSet.DistinctIds, hsplit, List.map_append, List.map_cons, List.nodup_middle,
    List.nodup_cons, ← List.map_append] at hids
  exact hids.1 (List.mem_map.mpr ⟨other, hother, hsame.trans hid.symm⟩)

/-! ## Edits -/

lemma Request.edit_add_eq_ok : (add setName rule).edit set = .ok new ↔
    (∃ compiled, CompiledRule.compile setName rule = .ok compiled) ∧
      (∀ other ∈ set.rules, other.id ≠ rule.id) ∧
      new = { set with rules := set.rules ++ [rule] } := by
  have hfresh : ¬ (set.rule? rule.id).isSome = true ↔ ∀ other ∈ set.rules, other.id ≠ rule.id := by
    rw [Option.not_isSome_iff_eq_none, RuleSet.rule?, List.find?_eq_none]
    simp
  rw [edit, bind_eq_ok]
  simp only [guard_eq_ok, hfresh]
  constructor
  · rintro ⟨_, hcompiles, hnew, hset⟩
    exact ⟨compiles_eq_ok.mp hcompiles, hnew, (Except.ok.inj hset).symm⟩
  · rintro ⟨hcompiles, hnew, rfl⟩
    exact ⟨(), compiles_eq_ok.mpr hcompiles, hnew, rfl⟩

lemma Request.edits_of_edit (hids : set.DistinctIds) (h : request.edit set = .ok new) :
    new = { set with rules := new.rules } ∧ request.Edits set.rules new.rules := by
  cases request with
  | add setName rule =>
    obtain ⟨hcompiles, hnew, rfl⟩ := edit_add_eq_ok.mp h
    exact ⟨rfl, .add hnew hcompiles⟩
  | update setName id patch =>
    simp only [edit, bind_eq_ok] at h
    obtain ⟨found, hfound, _, hcompiles, hset⟩ := h
    obtain ⟨front, back, hsplit, hlength, hid, honly⟩ := existingRule_split hids hfound
    obtain rfl := Except.ok.inj hset
    refine ⟨rfl, ?_⟩
    have hafter : set.rules.set found.2 (patch.apply found.1) =
        front ++ patch.apply found.1 :: back := by
      rw [hsplit, ← hlength]
      simp
    rw [hafter, hsplit]
    exact .update hid honly (patch.patches_apply found.1) (compiles_eq_ok.mp hcompiles)
  | delete setName id =>
    simp only [edit, bind_eq_ok] at h
    obtain ⟨found, hfound, hset⟩ := h
    obtain ⟨front, back, hsplit, hlength, hid, honly⟩ := existingRule_split hids hfound
    obtain rfl := Except.ok.inj hset
    refine ⟨rfl, ?_⟩
    have hafter : set.rules.eraseIdx found.2 = front ++ back := by
      rw [hsplit, ← hlength, List.eraseIdx_append_of_length_le (Nat.le_refl _)]
      simp
    rw [hafter, hsplit]
    exact .delete hid honly

lemma Request.Edits.nodup_ids (h : request.Edits rules after) (hids : (rules.map (·.id)).Nodup) :
    (after.map (·.id)).Nodup := by
  cases h with
  | add hnew _ =>
    rw [List.map_append, List.map_singleton, ← List.concat_eq_append]
    refine hids.concat fun hmem => ?_
    obtain ⟨other, hother, hid⟩ := List.mem_map.mp hmem
    exact hnew other hother hid
  | update _ _ hpatch _ =>
    simpa only [List.map_append, List.map_cons, hpatch.id] using hids
  | delete _ _ =>
    refine hids.sublist (List.Sublist.map _ ?_)
    exact (List.Sublist.refl _).append (List.sublist_cons_self _ _)

lemma Request.Edits.sound (h : request.Edits rules after) (hrequest : request.Sound)
    (hrules : ∀ r ∈ rules, r.Sound) : ∀ r ∈ after, r.Sound := by
  intro r hr
  cases h with
  | add _ _ =>
    rcases List.mem_append.mp hr with hold | hlast
    · exact hrules r hold
    · exact List.mem_singleton.mp hlast ▸ hrequest
  | @update _ _ _ rule patched _ _ _ _ hpatch _ =>
    have hold : rule.Sound := hrules rule (by simp)
    rcases List.mem_append.mp hr with hfront | hback
    · exact hrules r (List.mem_append_left _ hfront)
    · rcases List.mem_cons.mp hback with rfl | hback
      · rw [Rule.Sound, hpatch.extra]
        exact hold
      · exact hrules r (List.mem_append_right _ (List.mem_cons_of_mem _ hback))
  | delete _ _ =>
    rcases List.mem_append.mp hr with hfront | hback
    · exact hrules r (List.mem_append_left _ hfront)
    · exact hrules r (List.mem_append_right _ (List.mem_cons_of_mem _ hback))

lemma Request.distinctIds_of_edit (hids : set.DistinctIds) (h : request.edit set = .ok new) :
    new.DistinctIds := (edits_of_edit hids h).2.nodup_ids hids

lemma Request.sound_of_edit (hids : set.DistinctIds) (hset : set.Sound) (hrequest : request.Sound)
    (h : request.edit set = .ok new) : new.Sound := by
  obtain ⟨hnew, hedits⟩ := edits_of_edit hids h
  rw [hnew]
  exact ⟨hset.extra, hedits.sound hrequest hset.rules⟩

lemma Request.storable_of_edit (hset : set.Storable) (hrequest : request.Sound)
    (h : request.edit set = .ok new) : new.Storable :=
  ⟨distinctIds_of_edit hset.distinctIds h,
    sound_of_edit hset.distinctIds hset.sound hrequest h⟩

end

end RuleStore

end ScriptSurvey
