import ScriptSurvey.Proofs.FirstOccurrences
import ScriptSurvey.Proofs.KeyOrder
import ScriptSurvey.Rules.SetRecord

/-!
# Reading records back

The table of a rule set is read as that set, whatever the order of its entries, as long as the extra
fields of the set and of its rules are unknown ones. Whatever is read from a record is of that kind.
-/
namespace ScriptSurvey

open Toml (Value Table)

open Toml.Value (field? choice? unknownEntries Alike OrderFree)

/-! ## Readers that do not see the order of entries -/

namespace Toml.Value

@[simp] lemma sortTable_nil : sortTable [] = [] := List.mergeSort_nil

@[simp] lemma sortTable_singleton (e : String × Value) : sortTable [e] = [(e.1, sortKeys e.2)] :=
  List.mergeSort_singleton _

@[simp] lemma length_sortTable (entries : Table) : (sortTable entries).length = entries.length := by
  rw [sortTable, List.length_mergeSort, sortEntries_eq_map, List.length_map]

@[simp] lemma string?_string (text : String) : string? (.string text) = some text := rfl

@[simp] lemma boolean?_boolean (b : Bool) : boolean? (.boolean b) = some b := rfl

@[simp] lemma choice?_string (text : String) : choice? (.string text) = some text := rfl

@[simp] lemma field?_some {α : Type} (read : Value → Option α) (fallback : α) (v : Value) :
    field? read fallback (some v) = read v := rfl

@[simp] lemma field?_none {α : Type} (read : Value → Option α) (fallback : α) :
    field? read fallback none = some fallback := rfl

lemma choice?_of_many {entries : Table} (h : 1 < entries.length) : choice? (table entries) = none := by
  match entries with
  | e :: e' :: rest => simp [choice?]

lemma orderFree_choice? : OrderFree choice? := by
  intro v
  cases v with
  | table entries =>
    rw [sortKeys_table]
    match entries with
    | [] | [(key, .table [])] | [(key, .array [])] => simp
    | [(key, .table (e :: rest))] =>
      obtain ⟨e', rest', hcons⟩ := List.exists_cons_of_length_eq_add_one
        (length_sortTable (e :: rest))
      simp [hcons, choice?]
    | [(key, .array (v :: rest))] => simp [choice?]
    | [(key, .string _)] | [(key, .integer _)] | [(key, .float _)] | [(key, .boolean _)]
    | [(key, .datetime _)] =>
      rw [sortTable_singleton]
      rfl
    | e :: e' :: rest => rw [choice?_of_many (by simp), choice?_of_many (by simp)]
  | string | array | integer | float | boolean | datetime => rfl

lemma fields?_sortKeys (v : Value) (names : List String) :
    (sortKeys v).fields? names = (v.fields? names).map (List.map (Option.map sortKeys)) := by
  cases v with
  | table entries => simp [fields?, lookup_sortTable]
  | array items =>
    rw [sortKeys_array, fields?, fields?, Option.map_some, Option.some_inj]
    refine List.ext_getElem? fun i => ?_
    simp only [List.getElem?_map, List.getElem?_mapIdx, Option.map_map]
    rfl
  | datetime text =>
    change some (names.map fun _ => none) = _
    simp [fields?]
  | string | integer | float | boolean => rfl

end Toml.Value

open Toml.Value (orderFree_string? orderFree_boolean? orderFree_strings? orderFree_choice?
  alike_sortTable sortKeys_table)

lemma Rule.orderFree_ofValue? : OrderFree Rule.ofValue? := by
  intro v
  cases v with
  | table entries =>
    have h := alike_sortTable entries
    rw [sortKeys_table]
    simp only [Rule.ofValue?, h.bind_lookup orderFree_string?, h.field? (orderFree_string?.map _),
      h.field? (orderFree_choice?.bind _), h.field? orderFree_strings?, h.unknownEntries]
  | string | array | integer | float | boolean | datetime => rfl

def Detection.ofFields? (values : List (Option Value)) : Option Detection :=
  match values with
  | [packages, imports, fragments] => do
    return ⟨← field? Value.strings? [] packages, ← field? Value.strings? [] imports,
      ← field? Value.strings? [] fragments⟩
  | _ => none

lemma Detection.ofValue?_eq (v : Value) :
    ofValue? v = (v.fields? ["packages", "imports", "fragments"]).bind ofFields? := rfl

lemma Detection.orderFree_ofValue? : OrderFree Detection.ofValue? := by
  intro v
  rw [ofValue?_eq, ofValue?_eq, Toml.Value.fields?_sortKeys, Option.bind_map]
  refine congrArg (Option.bind _) (funext fun values => ?_)
  match values with
  | [packages, imports, fragments] =>
    simp only [Function.comp_apply, List.map_cons, List.map_nil, ofFields?,
      Toml.Value.field?_map_sortKeys orderFree_strings?]
  | [] | [_] | [_, _] | _ :: _ :: _ :: _ :: _ => rfl

lemma RuleSet.ofTable?_alike {entries others : Table} (h : Alike entries others) :
    ofTable? entries = ofTable? others := by
  simp only [ofTable?, h.field? orderFree_string?, h.field? orderFree_boolean?,
    h.field? Detection.orderFree_ofValue?, h.field? Rule.orderFree_ofValue?.list?, h.unknownEntries]

/-! ## Entries under known and unknown keys -/

section

variable {known : List String} {entries front : Table} {key : String}

/-- Nothing but unknown entries, in the order in which they are kept. -/
def Unknown (known : List String) (entries : Table) : Prop := unknownEntries known entries = entries

lemma unknown_nil (known : List String) : Unknown known [] := by
  rw [Unknown, unknownEntries, List.filter_nil, sortKeys_table, Toml.Value.sortTable_nil]

lemma Unknown.lookup_eq_none (h : Unknown known entries) (hkey : key ∈ known) :
    entries.lookup key = none := by
  rw [List.lookup_eq_none_iff]
  intro e he
  rw [Unknown, Toml.Value.unknownEntries_eq] at h
  rw [← h] at he
  have hother := (List.mem_filter.mp he).2
  simp only [Bool.not_eq_true', List.contains_eq_mem, decide_eq_false_iff_not] at hother
  exact bne_iff_ne.mpr fun heq => hother (heq ▸ hkey)

lemma unknownEntries_append (h : Unknown known entries) (hfront : ∀ e ∈ front, e.1 ∈ known) :
    unknownEntries known (front ++ entries) = entries := by
  have hnone : front.filter (fun e => !known.contains e.1) = [] :=
    List.filter_eq_nil_iff.mpr fun e he => by simp [hfront e he]
  rw [unknownEntries, List.filter_append, hnone, List.nil_append]
  exact h

end

lemma PatternKind.ofText?_text (kind : PatternKind) : ofText? kind.text = some kind := by
  cases kind <;> decide

lemma Severity.ofText?_text (severity : Severity) : ofText? severity.text = some severity := by
  cases severity <;> decide

/-! ## Reading what is written -/

namespace Rule

/-- The value of a list field, absent when empty. -/
def listValue? (items : List String) : Option Value :=
  if items.isEmpty then none else some (.array (items.map .string))

@[simp] lemma lookup_textEntry (key other : String) (text : Option String) :
    (textEntry key text).lookup other = if other == key then text.map .string else none := by
  cases text with
  | none => simp [textEntry]
  | some t =>
    rw [textEntry, Option.map_some, Option.toList_some, List.lookup_cons, List.lookup_nil]
    cases other == key <;> rfl

@[simp] lemma lookup_listEntry (key other : String) (items : List String) :
    (listEntry key items).lookup other = if other == key then listValue? items else none := by
  cases items with
  | nil => simp [listEntry, listValue?]
  | cons t rest =>
    rw [listEntry, List.isEmpty_cons, if_neg (by simp), List.lookup_cons, List.lookup_nil]
    cases other == key <;> rfl

lemma key_of_mem_textEntry {key : String} {text : Option String} {e : String × Value}
    (he : e ∈ textEntry key text) : e.1 = key := by
  cases text with
  | none => simp [textEntry] at he
  | some t => rw [List.mem_singleton.mp he]

lemma key_of_mem_listEntry {key : String} {items : List String} {e : String × Value}
    (he : e ∈ listEntry key items) : e.1 = key := by
  cases items with
  | nil => simp [listEntry] at he
  | cons t rest => rw [List.mem_singleton.mp he]

@[simp] lemma field?_textValue (text : Option String) :
    field? (fun v => v.string?.map some) none (text.map Value.string) = some text := by
  cases text <;> rfl

lemma strings?_map (items : List String) :
    Value.strings? (.array (items.map .string)) = some items := by
  rw [Value.strings?, Value.list?, List.mapM_map]
  induction items with
  | nil => rfl
  | cons t rest ih => simp_all [Value.string?]

@[simp] lemma field?_listValue? (items : List String) :
    field? Value.strings? [] (listValue? items) = some items := by
  cases items with
  | nil => rfl
  | cons t rest => exact strings?_map (t :: rest)

def Sound (rule : Rule) : Prop := Unknown knownKeys rule.extra

lemma ofValue?_toTable {rule : Rule} (h : rule.Sound) : ofValue? (.table rule.toTable) = some rule := by
  have hextra : unknownEntries knownKeys rule.toTable = rule.extra := by
    rw [toTable]
    refine unknownEntries_append h fun e he => ?_
    simp only [List.mem_append, List.mem_cons, List.not_mem_nil, or_false] at he
    obtain (((((rfl | rfl | rfl | rfl) | he) | he) | he) | he) | he := he
    any_goals simp [knownKeys]
    · simp [key_of_mem_textEntry he]
    · simp [key_of_mem_textEntry he]
    · simp [key_of_mem_textEntry he]
    · simp [key_of_mem_listEntry he]
    · simp [key_of_mem_textEntry he]
  have hknown : ∀ key ∈ knownKeys, rule.extra.lookup key = none := fun _ => h.lookup_eq_none
  simp only [knownKeys, List.forall_mem_cons] at hknown
  simp only [ofValue?, hextra]
  simp [toTable, List.lookup_cons, List.lookup_append, hknown, PatternKind.ofText?_text,
    Severity.ofText?_text]

end Rule

namespace Detection

lemma isEmpty_iff (d : Detection) : d.isEmpty = true ↔ d = empty := by
  obtain ⟨packages, imports, fragments⟩ := d
  simp [isEmpty, empty, and_assoc]

lemma ofValue?_toTable (d : Detection) : ofValue? (.table d.toTable) = some d := by
  simp [ofValue?_eq, Value.fields?, ofFields?, toTable, List.lookup_append]

end Detection

namespace RuleSet

structure Sound (set : RuleSet) : Prop where
  extra : Unknown knownKeys set.extra
  rules : ∀ rule ∈ set.rules, rule.Sound

lemma list?_toTable {rules : List Rule} (h : ∀ rule ∈ rules, rule.Sound) :
    Value.list? Rule.ofValue? (.array (rules.map fun r => .table r.toTable)) = some rules := by
  rw [Value.list?, List.mapM_map]
  induction rules with
  | nil => rfl
  | cons rule rest ih =>
    obtain ⟨hrule, hrest⟩ := List.forall_mem_cons.mp h
    simp [Rule.ofValue?_toTable hrule, ih hrest]

lemma unknownEntries_toTable {set : RuleSet} (h : set.Sound) :
    unknownEntries knownKeys set.toTable = set.extra := by
  rw [toTable]
  refine unknownEntries_append h.extra fun e he => ?_
  simp only [List.mem_append, List.mem_singleton, List.mem_ite_nil_left] at he
  obtain (((rfl | ⟨-, rfl⟩) | rfl) | ⟨-, rfl⟩) | rfl := he
  all_goals simp [knownKeys]

@[simp] lemma lookup_optional {absent : Prop} [Decidable absent] (key other : String) (v : Value) :
    (if absent then [] else [(key, v)]).lookup other =
      if other == key then (if absent then none else some v) else none := by
  by_cases h : absent
  · simp [h]
  · rw [if_neg h, if_neg h, List.lookup_cons, List.lookup_nil]
    cases other == key <;> rfl

lemma ofTable?_toTable {set : RuleSet} (h : set.Sound) : ofTable? set.toTable = some set := by
  have hknown : ∀ key ∈ knownKeys, set.extra.lookup key = none := fun _ => h.extra.lookup_eq_none
  simp only [knownKeys, List.forall_mem_cons] at hknown
  have hdescription : field? Value.string? ""
      (if set.description = "" then none else some (.string set.description))
      = some set.description := by
    split_ifs with hd <;> simp [hd]
  have hdetection : field? Detection.ofValue? .empty
      (if set.detection.isEmpty then none else some (.table set.detection.toTable))
      = some set.detection := by
    split_ifs with hd
    · rw [(Detection.isEmpty_iff _).mp hd, Value.field?_none]
    · exact Detection.ofValue?_toTable _
  rw [ofTable?, unknownEntries_toTable h]
  simp [toTable, List.lookup_cons, List.lookup_append, hknown, hdescription, hdetection,
    list?_toTable h.rules]

end RuleSet

/-! ## What records hold -/

lemma unknown_unknownEntries (known : List String) (entries : Table) :
    Unknown known (unknownEntries known entries) :=
  Toml.Value.unknownEntries_unknownEntries known entries

lemma Rule.sound_of_ofValue? {v : Value} {rule : Rule} (h : ofValue? v = some rule) : rule.Sound := by
  cases v with
  | table entries =>
    simp only [ofValue?, Option.bind_eq_bind, Option.bind_eq_some_iff, Option.pure_def,
      Option.some_inj] at h
    obtain ⟨_, -, _, -, _, -, _, -, _, -, _, -, _, -, _, -, _, -, rfl⟩ := h
    exact unknown_unknownEntries knownKeys entries
  | string | array | integer | float | boolean | datetime => simp [ofValue?] at h

lemma Toml.Value.exists_of_mem_list? {α : Type} {read : Value → Option α} {v : Value} {l : List α}
    (h : v.list? read = some l) {a : α} (ha : a ∈ l) : ∃ item, read item = some a := by
  cases v with
  | array items =>
    rw [list?] at h
    induction items generalizing l with
    | nil =>
      rw [List.mapM_nil, Option.pure_def, Option.some_inj] at h
      simp [← h] at ha
    | cons item rest ih =>
      simp only [List.mapM_cons, Option.bind_eq_bind, Option.bind_eq_some_iff, Option.pure_def,
        Option.some_inj] at h
      obtain ⟨b, hb, others, hothers, rfl⟩ := h
      obtain rfl | hmem := List.mem_cons.mp ha
      · exact ⟨item, hb⟩
      · exact ih hmem hothers
  | string | table | integer | float | boolean | datetime => simp [list?] at h

namespace RuleSet

lemma sound_of_ofTable? {entries : Table} {set : RuleSet} (h : ofTable? entries = some set) :
    set.Sound := by
  simp only [ofTable?, Option.bind_eq_bind, Option.bind_eq_some_iff, Option.pure_def,
    Option.some_inj] at h
  obtain ⟨_, -, _, -, _, -, _, -, rules, hrules, rfl⟩ := h
  refine ⟨unknown_unknownEntries knownKeys entries, fun rule hrule => ?_⟩
  cases hvalue : entries.lookup "rules" with
  | none =>
    rw [hvalue, Value.field?_none, Option.some_inj] at hrules
    simp [← hrules] at hrule
  | some v =>
    rw [hvalue, Value.field?_some] at hrules
    obtain ⟨item, hitem⟩ := Value.exists_of_mem_list? hrules hrule
    exact Rule.sound_of_ofValue? hitem

def DistinctIds (set : RuleSet) : Prop := (set.rules.map (·.id)).Nodup

instance (set : RuleSet) : Decidable set.DistinctIds :=
  inferInstanceAs (Decidable (set.rules.map (·.id)).Nodup)

/-- The set with the name of its record when it has none of its own. -/
def namedBy (stem : String) (set : RuleSet) : RuleSet :=
  if set.name.isEmpty then { set with name := stem } else set

lemma parse?_eq_some_iff {stem text : String} {set : RuleSet} :
    parse? stem text = some set ↔
      ∃ held, read? text = some held ∧ held.namedBy stem = set ∧ set.name = stem ∧
        set.DistinctIds := by
  rw [parse?]
  cases read? text with
  | none => simp
  | some held =>
    change (if (held.namedBy stem).name = stem &&
      ((held.namedBy stem).rules.map (·.id)).eraseDups.length =
        ((held.namedBy stem).rules.map (·.id)).length then some (held.namedBy stem) else none) =
          some set ↔ _
    simp only [Option.ite_none_right_eq_some, Bool.and_eq_true, decide_eq_true_eq,
      length_eraseDups_iff, Option.some_inj, DistinctIds]
    constructor
    · rintro ⟨hsound, rfl⟩
      exact ⟨held, rfl, rfl, hsound⟩
    · rintro ⟨held, rfl, rfl, hsound⟩
      exact ⟨hsound, rfl⟩

lemma sound_of_parse? {stem text : String} {set : RuleSet} (h : parse? stem text = some set) :
    set.Sound := by
  obtain ⟨held, hread, rfl, -⟩ := parse?_eq_some_iff.mp h
  obtain ⟨entries, -, htable⟩ := Option.bind_eq_some_iff.mp hread
  have hsound := sound_of_ofTable? htable
  rw [namedBy]
  split_ifs
  · exact ⟨hsound.extra, hsound.rules⟩
  · exact hsound

end RuleSet

/-- The text of a table is read as that table, up to the order of entries. -/
def Toml.Rereads (entries : Table) : Prop :=
  ∃ others, Toml.parse? (Toml.write entries) = some others ∧ Alike others entries

lemma RuleSet.parse?_write {set : RuleSet} (hsound : set.Sound) (hids : set.DistinctIds)
    (hread : Toml.Rereads set.toTable) : parse? set.name set.write = some set := by
  obtain ⟨others, hparse, halike⟩ := hread
  have hset : read? set.write = some set := by
    rw [read?, write, hparse, Option.bind_some, ofTable?_alike halike, ofTable?_toTable hsound]
  exact parse?_eq_some_iff.mpr ⟨set, hset, ite_self _, rfl, hids⟩

/-! ## Equality of values -/

namespace Toml.Value

mutual

theorem eq_of_beq {a b : Value} (h : beq a b = true) : a = b := by
  cases a <;> cases b <;> simp_all [beq]
  case array.array => exact items_eq_of_beq h
  case table.table => exact entries_eq_of_beq h

theorem items_eq_of_beq {as bs : List Value} (h : beqItems as bs = true) : as = bs := by
  cases as <;> cases bs <;> simp_all [beqItems]
  case cons.cons => exact ⟨eq_of_beq h.1, items_eq_of_beq h.2⟩

theorem entries_eq_of_beq {as bs : List (String × Value)} (h : beqEntries as bs = true) :
    as = bs := by
  match as, bs with
  | [], [] => rfl
  | (k, a) :: as, (l, b) :: bs =>
    simp only [beqEntries, Bool.and_eq_true, beq_iff_eq] at h
    rw [h.1.1, eq_of_beq h.1.2, entries_eq_of_beq h.2]

end

mutual

theorem beq_self (a : Value) : beq a a = true := by
  cases a <;> simp [beq]
  case array items => exact beqItems_self items
  case table entries => exact beqEntries_self entries

theorem beqItems_self (as : List Value) : beqItems as as = true := by
  match as with
  | [] => rfl
  | a :: as => simp [beqItems, beq_self a, beqItems_self as]

theorem beqEntries_self (as : List (String × Value)) : beqEntries as as = true := by
  match as with
  | [] => rfl
  | (k, a) :: as => simp [beqEntries, beq_self a, beqEntries_self as]

end

instance : LawfulBEq Value where
  eq_of_beq := eq_of_beq
  rfl := beq_self _

instance : DecidableEq Value := instDecidableEqOfLawfulBEq

end Toml.Value

deriving instance DecidableEq for Rule

deriving instance DecidableEq for RuleSet

end ScriptSurvey
