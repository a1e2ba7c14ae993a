import Mathlib.Data.List.Forall2
import Mathlib.Tactic.Common
import ScriptSurvey.Proofs.RecordRoundTrip

/-!
# Fields that are not known

What a record holds under unknown keys, of the set itself and of its rules, is in the record that is
written for the set, and stays there when rules are patched or taken away. The table of a detection is
written without its unknown keys.
-/
namespace ScriptSurvey

open Toml (Value Table)

open Toml.Value (unknownEntries sortKeys sortTable Alike lookup_sortTable sortKeys_table)

/-! ## What documents hold -/

namespace Toml

/-- Under every unknown key both tables have the same value, up to the order of entries within it. -/
def SameUnknown (known : List String) (entries others : Table) : Prop :=
  ∀ key, key ∉ known → (others.lookup key).map sortKeys = (entries.lookup key).map sortKeys

def Value.table? : Value → Option Table
  | .table entries => some entries
  | _ => none

@[simp] lemma Value.table?_table (entries : Table) : (Value.table entries).table? = some entries := rfl

section

variable {known : List String} {entries others : Table}

lemma lookup_unknownEntries {key : String} (h : key ∉ known) :
    (unknownEntries known entries).lookup key = (entries.lookup key).map sortKeys := by
  have hchosen : ∀ e : String × Value,
      ((e.1 == key) && !known.contains e.1) = (e.1 == key) := by
    intro e
    by_cases he : e.1 = key
    · simp [he, h]
    · simp [he]
  rw [← lookup_sortTable, Value.lookup_eq_head?_filter, Value.unknownEntries_eq, List.filter_filter,
    Value.lookup_eq_head?_filter]
  simp only [hchosen]

lemma sameUnknown_of_unknownEntries (h : unknownEntries known others = unknownEntries known entries) :
    SameUnknown known entries others := by
  intro key hkey
  rw [← lookup_unknownEntries hkey, h, lookup_unknownEntries hkey]

end

end Toml

open Toml (SameUnknown)

def ruleTables (document : Table) : List Table :=
  match document.lookup "rules" with
  | some (.array items) => items.filterMap Value.table?
  | _ => []

def ruleId (entries : Table) : String := ((entries.lookup "id").bind Value.string?).getD ""

def SameRule (entries others : Table) : Prop :=
  ruleId others = ruleId entries ∧ SameUnknown Rule.knownKeys entries others

def ruleMarks (entries : Table) : String × Table :=
  (ruleId entries, unknownEntries Rule.knownKeys entries)

def detectionTable (document : Table) : Table := ((document.lookup "detect").bind Value.table?).getD []

def Detection.knownKeys : List String := ["packages", "imports", "fragments"]

namespace Rule

/-- What every edit leaves to a rule. -/
def marks (rule : Rule) : String × Table := (rule.id, rule.extra)

lemma marks_of_ofValue? {value : Value} {rule : Rule} (h : ofValue? value = some rule) :
    ∃ entries, value = .table entries ∧ rule.marks = ruleMarks entries := by
  cases value with
  | table entries =>
    simp only [ofValue?, Option.bind_eq_bind, Option.bind_eq_some_iff, Option.pure_def,
      Option.some_inj] at h
    obtain ⟨id, ⟨v, hv, hid⟩, _, -, _, -, _, -, _, -, _, -, _, -, _, -, _, -, rfl⟩ := h
    refine ⟨entries, rfl, ?_⟩
    rw [marks, ruleMarks, ruleId, hv, Option.bind_some, hid, Option.getD_some]
  | string | array | integer | float | boolean | datetime => simp [ofValue?] at h

end Rule

namespace RuleSet

lemma marks_of_list? {items : List Value} {rules : List Rule}
    (h : Value.list? Rule.ofValue? (.array items) = some rules) :
    rules.map Rule.marks = (items.filterMap Value.table?).map ruleMarks := by
  rw [Value.list?] at h
  induction items generalizing rules with
  | nil =>
    rw [List.mapM_nil, Option.pure_def, Option.some_inj] at h
    rw [← h]
    rfl
  | cons item rest ih =>
    simp only [List.mapM_cons, Option.bind_eq_bind, Option.bind_eq_some_iff, Option.pure_def,
      Option.some_inj] at h
    obtain ⟨rule, hrule, others, hothers, rfl⟩ := h
    obtain ⟨entries, rfl, hmarks⟩ := Rule.marks_of_ofValue? hrule
    rw [List.map_cons, List.filterMap_cons_some (Value.table?_table entries), List.map_cons, hmarks, ih hothers]

/-- What is kept of a document. -/
lemma ofTable?_spec {document : Table} {set : RuleSet} (h : ofTable? document = some set) :
    set.extra = unknownEntries knownKeys document ∧
      set.rules.map Rule.marks = (ruleTables document).map ruleMarks := by
  simp only [ofTable?, Option.bind_eq_bind, Option.bind_eq_some_iff, Option.pure_def,
    Option.some_inj] at h
  obtain ⟨_, -, _, -, _, -, _, -, rules, hrules, rfl⟩ := h
  refine ⟨rfl, ?_⟩
  rw [ruleTables]
  cases hvalue : document.lookup "rules" with
  | none =>
    rw [hvalue, Value.field?_none, Option.some_inj] at hrules
    rw [← hrules]
    rfl
  | some value =>
    rw [hvalue, Value.field?_some] at hrules
    cases value with
    | array items => exact marks_of_list? hrules
    | string | table | integer | float | boolean | datetime => simp [Value.list?] at hrules

end RuleSet

/-! ## Edits of the rules -/

namespace RuleStore

namespace Request

def isAdd : Request → Bool
  | add .. => true
  | update .. | delete .. => false

def deletes (request : Request) (id : String) : Bool :=
  match request with
  | add .. | update .. => false
  | delete _ other => other == id

def edits (requests : List Request) (set : RuleSet) : Except Error RuleSet :=
  requests.foldlM (fun set request => request.edit set) set

section

variable {request : Request} {requests : List Request} {set new : RuleSet} {rules after : List Rule}

lemma filter_marks (h : ∀ rule ∈ rules, request.deletes rule.id = false) :
    (rules.map Rule.marks).filter (fun m => !request.deletes m.1) = rules.map Rule.marks := by
  refine List.filter_eq_self.mpr fun m hm => ?_
  obtain ⟨rule, hrule, rfl⟩ := List.mem_map.mp hm
  exact Bool.not_eq_true' _ ▸ h rule hrule

lemma Edits.marks (h : request.Edits rules after) (hadd : request.isAdd = false) :
    after.map Rule.marks = (rules.map Rule.marks).filter fun m => !request.deletes m.1 := by
  cases h with
  | add => cases hadd
  | @update _ _ _ rule patched front back _ _ hpatch _ =>
    have hmarks : patched.marks = rule.marks := by
      rw [Rule.marks, Rule.marks, hpatch.id, hpatch.extra]
    rw [filter_marks fun _ _ => rfl, List.map_append, List.map_append, List.map_cons, List.map_cons,
      hmarks]
  | @delete setName id rule front back hid honly =>
    have hother : ∀ other ∈ front ++ back, (Request.delete setName id).deletes other.id = false :=
      fun other hother => beq_false_of_ne (honly other hother).symm
    obtain ⟨hfront, hback⟩ := List.forall_mem_append.mp hother
    rw [List.map_append, List.map_append, List.map_cons, List.filter_append, filter_marks hfront,
      List.filter_cons_of_neg (by simp [Rule.marks, deletes, hid]), filter_marks hback]

lemma edits_cons : edits (request :: requests) set = .ok new ↔
    ∃ next, request.edit set = .ok next ∧ edits requests next = .ok new := by
  rw [edits, List.foldlM_cons]
  exact bind_eq_ok

lemma storable_of_edits (hset : set.Storable) (hrequests : ∀ request ∈ requests, request.isAdd = false)
    (h : edits requests set = .ok new) : new.Storable := by
  induction requests generalizing set with
  | nil =>
    obtain rfl := Except.ok.inj h
    exact hset
  | cons request rest ih =>
    obtain ⟨hrequest, hrest⟩ := List.forall_mem_cons.mp hrequests
    obtain ⟨next, hnext, hlater⟩ := edits_cons.mp h
    have hsound : request.Sound := by
      cases request with
      | add => cases hrequest
      | update | delete => trivial
    exact ih (storable_of_edit hset hsound hnext) hrest hlater

/-- Requests change neither the extra fields of a set nor those of the rules that stay. -/
lemma marks_of_edits (hset : set.DistinctIds) (hrequests : ∀ request ∈ requests, request.isAdd = false)
    (h : edits requests set = .ok new) : new.extra = set.extra ∧
      new.rules.map Rule.marks =
        (set.rules.map Rule.marks).filter fun m => !requests.any (·.deletes m.1) := by
  induction requests generalizing set with
  | nil =>
    obtain rfl := Except.ok.inj h
    simp
  | cons request rest ih =>
    obtain ⟨hrequest, hrest⟩ := List.forall_mem_cons.mp hrequests
    obtain ⟨next, hnext, hlater⟩ := edits_cons.mp h
    obtain ⟨hsame, hedits⟩ := edits_of_edit hset hnext
    obtain ⟨hextra, hmarks⟩ := ih (distinctIds_of_edit hset hnext) hrest hlater
    refine ⟨hextra.trans (by rw [hsame]), ?_⟩
    rw [hmarks, hedits.marks hrequest, List.filter_filter]
    simp only [List.any_cons, Bool.not_or, Bool.and_comm]

end

end Request

end RuleStore

/-! ## What is written -/

lemma lookup_detect_toTable {set : RuleSet} (h : set.Sound) : set.toTable.lookup "detect" =
    if set.detection.isEmpty then none else some (.table set.detection.toTable) := by
  have hextra : set.extra.lookup "detect" = none := h.extra.lookup_eq_none (by decide)
  simp [RuleSet.toTable, List.lookup_cons, List.lookup_append, hextra]

lemma lookup_detection_toTable (detection : Detection) {key : String}
    (hkey : key ∉ Detection.knownKeys) : detection.toTable.lookup key = none := by
  simp only [Detection.knownKeys, List.mem_cons, List.not_mem_nil, or_false, not_or] at hkey
  simp [Detection.toTable, List.lookup_append, hkey]

lemma detectionTable_of_alike {saved : Table} {set : RuleSet} (hset : set.Sound)
    (h : Alike saved set.toTable) {key : String} (hkey : key ∉ Detection.knownKeys) :
    (detectionTable saved).lookup key = none := by
  have hlookup : (saved.lookup "detect").map sortKeys =
      (set.toTable.lookup "detect").map sortKeys := by
    rw [← lookup_sortTable, h, lookup_sortTable]
  rw [lookup_detect_toTable hset] at hlookup
  rw [detectionTable]
  cases hvalue : saved.lookup "detect" with
  | none => rfl
  | some value =>
    cases value with
    | table entries =>
      rw [hvalue] at hlookup
      split_ifs at hlookup
      · cases hlookup
      · rw [Option.map_some, Option.map_some, sortKeys_table, sortKeys_table] at hlookup
        have hsame : sortTable entries = sortTable set.detection.toTable :=
          Value.table.inj (Option.some.inj hlookup)
        have hnone : (entries.lookup key).map sortKeys = none := by
          rw [← lookup_sortTable, hsame, lookup_sortTable, lookup_detection_toTable _ hkey,
            Option.map_none]
        exact Option.map_eq_none_iff.mp hnone
    | string | array | integer | float | boolean | datetime => rfl

lemma forall₂_sameRule {tables others : List Table}
    (h : others.map ruleMarks = tables.map ruleMarks) : List.Forall₂ SameRule tables others := by
  rw [eq_comm, ← List.forall₂_eq_eq_eq, List.forall₂_map_left_iff, List.forall₂_map_right_iff] at h
  refine h.imp fun entries other hmarks => ?_
  obtain ⟨hid, hunknown⟩ := Prod.mk.inj hmarks
  exact ⟨hid.symm, Toml.sameUnknown_of_unknownEntries hunknown.symm⟩

namespace RuleSet

open RuleStore (Request)

lemma extra_namedBy (set : RuleSet) (stem : String) :
    (set.namedBy stem).extra = set.extra ∧ (set.namedBy stem).rules = set.rules := by
  rw [namedBy]
  split_ifs <;> exact ⟨rfl, rfl⟩

/-- What a written document keeps of the one that was read, after requests: the unknown fields of the
set, and those of every rule that was not deleted, in the order of the rules. Of a detection it has known
fields only. -/
structure KeepsUnknown (requests : List Request) (document saved : Table) : Prop where
  fields : SameUnknown knownKeys document saved
  rules : List.Forall₂ SameRule
    ((ruleTables document).filter fun entries => !requests.any (·.deletes (ruleId entries)))
    (ruleTables saved)
  detection : ∀ key, key ∉ Detection.knownKeys → (detectionTable saved).lookup key = none

/-- Whoever reads the edited set from a document finds in it what is to be kept. -/
lemma keepsUnknown_of_alike {document saved : Table} {new : RuleSet} {requests : List Request}
    (hsound : new.Sound) (halike : Alike saved new.toTable)
    (hextra : new.extra = unknownEntries knownKeys document)
    (hmarks : new.rules.map Rule.marks =
      ((ruleTables document).map ruleMarks).filter fun m => !requests.any (·.deletes m.1)) :
    KeepsUnknown requests document saved := by
  have hnew : ofTable? saved = some new := by rw [ofTable?_alike halike, ofTable?_toTable hsound]
  obtain ⟨hnewExtra, hnewMarks⟩ := ofTable?_spec hnew
  rw [hnewMarks, List.filter_map] at hmarks
  exact ⟨Toml.sameUnknown_of_unknownEntries (hnewExtra ▸ hextra), forall₂_sameRule hmarks,
    fun _ => detectionTable_of_alike hsound halike⟩

/-- Unknown fields of a record are written again, those of its detection apart. -/
theorem keepsUnknown_of_edits {stem text : String} {set new : RuleSet} {requests : List Request}
    (hset : parse? stem text = some set) (hrequests : ∀ request ∈ requests, request.isAdd = false)
    (hedits : Request.edits requests set = .ok new) :
    ∃ document, Toml.parse? text = some document ∧ KeepsUnknown requests document new.toTable ∧
      (Toml.Rereads new.toTable →
        ∃ saved, Toml.parse? new.write = some saved ∧ KeepsUnknown requests document saved) := by
  obtain ⟨held, hheld, hnamed, -, hids⟩ := parse?_eq_some_iff.mp hset
  obtain ⟨document, hdocument, htable⟩ := Option.bind_eq_some_iff.mp hheld
  have hsound : new.Sound := (Request.storable_of_edits (storable_of_parse? hset) hrequests hedits).sound
  obtain ⟨hextra, hmarks⟩ := Request.marks_of_edits hids hrequests hedits
  obtain ⟨hheldExtra, hheldMarks⟩ := ofTable?_spec htable
  obtain ⟨hsameExtra, hsameRules⟩ := extra_namedBy held stem
  rw [← hnamed, hsameExtra, hheldExtra] at hextra
  rw [← hnamed, hsameRules, hheldMarks] at hmarks
  refine ⟨document, hdocument, keepsUnknown_of_alike hsound rfl hextra hmarks, ?_⟩
  rintro ⟨saved, hsaved, halike⟩
  exact ⟨saved, hsaved, keepsUnknown_of_alike hsound halike hextra hmarks⟩

/-! ## A record with unknown fields everywhere, and one with a field in its detection -/

theorem keepsUnknown_of_edits_richRecord : Toml.Rereads shorterSet.toTable ∧
    ∃ document saved, Toml.parse? richRecord = some document ∧
      Toml.parse? shorterSet.write = some saved ∧
      KeepsUnknown [.delete "team" "s"] document saved := by
  obtain ⟨hset, hedit⟩ := parse?_richRecord
  have hedits : Request.edits [.delete "team" "s"] richSet = .ok shorterSet :=
    Request.edits_cons.mpr ⟨shorterSet, hedit, rfl⟩
  have hrequests : ∀ request ∈ [Request.delete "team" "s"], request.isAdd = false := by decide
  obtain ⟨document, hdocument, -, hwritten⟩ := keepsUnknown_of_edits hset hrequests hedits
  obtain ⟨saved, hsaved, hkeeps⟩ := hwritten rereads_shorterSet
  exact ⟨rereads_shorterSet, document, saved, hdocument, hsaved, hkeeps⟩

def strayRecord : String :=
  "[detect]\npackages = [\"left-pad\"]\nowner = \"platform\"\n\n[[rules]]\nid = \"r\"\npattern = \"p\"\n"

def strayDocument : Table :=
  [("detect", .table [("packages", .array [.string "left-pad"]), ("owner", .string "platform")]),
    ("rules", .array [.table [("id", .string "r"), ("pattern", .string "p")]])]

def straySet : RuleSet where
  name := "team"
  description := ""
  alwaysApply := false
  detection := ⟨["left-pad"], [], []⟩
  rules := [.ofPattern "r" "p"]
  extra := []

def patchedSet : RuleSet :=
  { straySet with rules := [{ Rule.ofPattern "r" "p" with severity := .error }] }

lemma parse?_strayRecord : Toml.parse? strayRecord = some strayDocument ∧
    parse? "team" strayRecord = some straySet ∧
    (Request.update "team" "r" RuleStore.severityPatch).edit straySet = .ok patchedSet := by
  decide +kernel

lemma parse?_write_patchedSet : Toml.parse? patchedSet.write = some patchedSet.toTable := by
  have hsections : Toml.tableSections .none [] patchedSet.toTable =
      [⟨.none, [], [("name", .string "team"), ("always_apply", .boolean false)]⟩,
        ⟨.table, ["detect"], [("packages", .array [.string "left-pad"])]⟩,
        ⟨.element, ["rules"], [("id", .string "r"), ("pattern", .string "p"),
          ("kind", .string "literal"), ("severity", .string "error")]⟩] := by
    cbv
  rw [write, Toml.write, hsections]
  decide +kernel

/-- A detection loses its unknown field when a rule of the set is patched. -/
theorem unknown_field_lost : ∃ document set new saved, Toml.parse? strayRecord = some document ∧
    parse? "team" strayRecord = some set ∧
    (Request.update "team" "r" RuleStore.severityPatch).edit set = .ok new ∧
    Toml.parse? new.write = some saved ∧
    (detectionTable document).lookup "owner" = some (.string "platform") ∧
    (detectionTable saved).lookup "owner" = none := by
  obtain ⟨hdocument, hset, hedit⟩ := parse?_strayRecord
  exact ⟨strayDocument, straySet, patchedSet, patchedSet.toTable, hdocument, hset, hedit,
    parse?_write_patchedSet, rfl, rfl⟩

end RuleSet

end ScriptSurvey
