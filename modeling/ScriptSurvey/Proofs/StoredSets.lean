import ScriptSurvey.Proofs.Directories
import ScriptSurvey.Proofs.FileExtensions
import ScriptSurvey.Proofs.FirstOccurrences
import ScriptSurvey.Proofs.RecordReading
import ScriptSurvey.Rules.Store

/-!
# The sets of a store

A store maps names to sets: each key is the name of its set, and a map is told by what its keys lead to.
A file holds the set that it is named after, and a raw record the set without a name. So replacing the
file of one named set replaces this set.
-/
namespace ScriptSurvey

namespace File

lemma text?_ofText (text : String) : (ofText text).text? = some text := by
  simp only [ofText, text?, String.fromUTF8?, String.toUTF8_eq_toByteArray, dif_pos text.isValidUTF8]
  rfl

end File

namespace RuleStore

/-! ## Maps of sets -/

section

variable {sets others : List (String × StoredSet)} {s stored : StoredSet} {loaded : List StoredSet}
  {e : String × StoredSet} {key name : String}

def Sorted (sets : List (String × StoredSet)) : Prop := sets.Pairwise fun a b => a.1 < b.1

def Keyed (sets : List (String × StoredSet)) : Prop := ∀ e ∈ sets, e.2.set.name = e.1

lemma Sorted.nodup_keys (h : Sorted sets) : (sets.map (·.1)).Nodup :=
  List.pairwise_map.mpr (h.imp String.ne_of_lt)

lemma Sorted.lookup_eq_some_iff (h : Sorted sets) : sets.lookup key = some s ↔ (key, s) ∈ sets :=
  lookup_eq_some_iff_mem h.nodup_keys

lemma Sorted.ext (h : Sorted sets) (hothers : Sorted others)
    (hlookup : ∀ key, sets.lookup key = others.lookup key) : sets = others := by
  have hmem : ∀ e, e ∈ sets ↔ e ∈ others := fun (key, s) => by
    rw [← h.lookup_eq_some_iff, hlookup, hothers.lookup_eq_some_iff]
  have hperm : sets.Perm others :=
    (List.perm_ext_iff_of_nodup h.nodup_keys.of_map hothers.nodup_keys.of_map).mpr hmem
  exact hperm.eq_of_pairwise (fun a b _ _ hab hba => absurd hba (String.lt_asymm hab)) h hothers

lemma mem_of_mem_insertSet (h : e ∈ insertSet sets key stored) : e = (key, stored) ∨ e ∈ sets := by
  induction sets with
  | nil => exact Or.inl (List.mem_singleton.mp h)
  | cons first rest ih =>
    rw [insertSet] at h
    split_ifs at h
    · exact List.mem_cons.mp h
    · rcases List.mem_cons.mp h with rfl | hrest
      · exact Or.inr List.mem_cons_self
      · exact (ih hrest).imp_right (List.mem_cons_of_mem _)
    · exact (List.mem_cons.mp h).imp_right (List.mem_cons_of_mem _)

lemma sorted_insertSet (h : Sorted sets) (key : String) (stored : StoredSet) :
    Sorted (insertSet sets key stored) := by
  induction sets with
  | nil => exact List.pairwise_singleton _ _
  | cons first rest ih =>
    obtain ⟨hfirst, hrest⟩ := List.pairwise_cons.mp h
    rw [insertSet]
    split_ifs with hbefore hafter
    · refine List.pairwise_cons.mpr ⟨fun e he => ?_, h⟩
      rcases List.mem_cons.mp he with rfl | he
      · exact hbefore
      · exact String.lt_trans hbefore (hfirst e he)
    · refine List.pairwise_cons.mpr ⟨fun e he => ?_, ih hrest⟩
      rcases mem_of_mem_insertSet he with rfl | he
      · exact hafter
      · exact hfirst e he
    · obtain rfl : key = first.1 := String.le_antisymm hafter hbefore
      exact List.pairwise_cons.mpr ⟨hfirst, hrest⟩

lemma keyed_insertSet (h : Keyed sets) (stored : StoredSet) :
    Keyed (insertSet sets stored.set.name stored) := by
  intro e he
  rcases mem_of_mem_insertSet he with rfl | hold
  · rfl
  · exact h e hold

/-- A set that is put in is found under its key, and every other key leads where it led. -/
lemma lookup_insertSet (sets : List (String × StoredSet)) (key : String) (stored : StoredSet)
    (name : String) :
    (insertSet sets key stored).lookup name = if name = key then some stored else sets.lookup name := by
  induction sets with
  | nil => rw [insertSet, lookup_cons_eq]
  | cons first rest ih =>
    obtain ⟨other, old⟩ := first
    rw [insertSet, lookup_cons_eq]
    by_cases hbefore : key < other
    · rw [if_pos hbefore, lookup_cons_eq, lookup_cons_eq]
    · rw [if_neg hbefore]
      by_cases hafter : other < key
      · have hne : other ≠ key := String.ne_of_lt hafter
        rw [if_pos hafter, lookup_cons_eq, ih]
        by_cases hname : name = key
        · rw [if_pos hname, if_pos hname, if_neg (hname ▸ hne.symm)]
        · rw [if_neg hname, if_neg hname]
      · obtain rfl : key = other := String.le_antisymm hafter hbefore
        rw [if_neg hafter, lookup_cons_eq]
        by_cases hname : name = key
        · rw [if_pos hname, if_pos hname]
        · rw [if_neg hname, if_neg hname, if_neg hname]

/-! ## Putting in many sets -/

lemma sorted_insertAll (h : Sorted sets) (loaded : List StoredSet) :
    Sorted (insertAll sets loaded) := by
  induction loaded generalizing sets with
  | nil => exact h
  | cons stored rest ih => exact ih (sorted_insertSet h _ stored)

lemma keyed_insertAll (h : Keyed sets) (loaded : List StoredSet) : Keyed (insertAll sets loaded) := by
  induction loaded generalizing sets with
  | nil => exact h
  | cons stored rest ih => exact ih (keyed_insertSet h stored)

/-- Of the sets that are put in under one name the last one is found. -/
lemma lookup_insertAll (sets : List (String × StoredSet)) (loaded : List StoredSet) (name : String) :
    (insertAll sets loaded).lookup name =
      (loaded.reverse.find? (·.set.name == name)).or (sets.lookup name) := by
  induction loaded generalizing sets with
  | nil => rfl
  | cons stored rest ih =>
    rw [insertAll, List.foldl_cons, ← insertAll, ih, lookup_insertSet, List.reverse_cons,
      List.find?_append, Option.or_assoc]
    refine congrArg _ ?_
    by_cases hname : name = stored.set.name
    · simp [hname]
    · simp [hname, Ne.symm hname]

lemma mem_of_mem_insertAll (h : e ∈ insertAll sets loaded) : e.2 ∈ loaded ∨ e ∈ sets := by
  induction loaded generalizing sets with
  | nil => exact Or.inr h
  | cons stored rest ih =>
    rcases ih h with hrest | hinserted
    · exact Or.inl (List.mem_cons_of_mem _ hrest)
    · rcases mem_of_mem_insertSet hinserted with rfl | hold
      · exact Or.inl List.mem_cons_self
      · exact Or.inr hold

lemma insertSet_of_lt (h : ∀ e ∈ sets, e.1 < key) :
    insertSet sets key stored = sets ++ [(key, stored)] := by
  induction sets with
  | nil => rfl
  | cons first rest ih =>
    obtain ⟨hfirst, hrest⟩ := List.forall_mem_cons.mp h
    rw [insertSet, if_neg (String.lt_asymm hfirst), if_pos hfirst, ih hrest]
    rfl

lemma insertAll_of_sorted (h : loaded.Pairwise fun a b => a.set.name < b.set.name) :
    insertAll [] loaded = loaded.map fun s => (s.set.name, s) := by
  induction loaded using List.reverseRecOn with
  | nil => rfl
  | append_singleton front s ih =>
    obtain ⟨hfront, -, hlast⟩ := List.pairwise_append.mp h
    have hbefore : ∀ e ∈ insertAll [] front, e.1 < s.set.name := by
      rw [ih hfront]
      exact List.forall_mem_map.mpr fun t ht => hlast t ht s (List.mem_singleton.mpr rfl)
    rw [List.map_append, ← ih hfront, insertAll, List.foldl_append]
    exact insertSet_of_lt hbefore

end

end RuleStore

namespace RuleSet

/-- What holds of every set that a store has: no rule identifier comes twice, and extra fields are
unknown. -/
structure Storable (set : RuleSet) : Prop where
  distinctIds : set.DistinctIds
  sound : set.Sound

lemma Sound.of_extra_eq_nil {set : RuleSet} (hset : set.extra = [])
    (hrules : ∀ rule ∈ set.rules, rule.extra = []) : set.Sound := by
  refine ⟨hset ▸ unknown_nil knownKeys, fun rule hrule => ?_⟩
  rw [Rule.Sound, hrules rule hrule]
  exact unknown_nil Rule.knownKeys

lemma storable_named (name : String) : (named name).Storable :=
  ⟨List.nodup_nil, .of_extra_eq_nil rfl (by simp [named])⟩

lemma storable_of_parse? {stem text : String} {set : RuleSet} (h : parse? stem text = some set) :
    set.Storable := by
  obtain ⟨-, -, -, -, hids⟩ := parse?_eq_some_iff.mp h
  exact ⟨hids, sound_of_parse? h⟩

lemma storable_of_mem_builtIn {set : RuleSet} (h : set ∈ builtIn) : set.Storable := by
  have hids : ∀ s ∈ builtIn, s.DistinctIds := by decide
  have hextra : ∀ s ∈ builtIn, s.extra = [] ∧ ∀ rule ∈ s.rules, rule.extra = [] := by decide
  exact ⟨hids set h, .of_extra_eq_nil (hextra set h).1 (hextra set h).2⟩

end RuleSet

namespace RuleStore

lemma ne_empty_of_isValidName {name : String} (h : isValidName name = true) : name ≠ "" := by
  rintro rfl
  exact absurd h (by decide)

/-! ## Files and the sets they hold -/

def recordName (set : String) : String := set ++ "." ++ recordExtension

def withSet (store : RuleStore) (set : RuleSet) : RuleStore :=
  { store with
    sets := insertSet store.sets set.name
      ⟨set, .file (.text (Path.joinText store.directory (recordName set.name)))⟩ }

lemma stored?_withSet (store : RuleStore) (set : RuleSet) (name : String) :
    (store.withSet set).stored? name =
      if name = set.name then some ⟨set, .file (.text (Path.joinText store.directory (recordName set.name)))⟩
      else store.stored? name :=
  lookup_insertSet _ _ _ _

lemma get?_withSet (store : RuleStore) (set : RuleSet) :
    (store.withSet set).get? set.name = some set := by
  rw [get?, stored?_withSet, if_pos rfl]
  rfl

lemma recordName_inj {set other : String} : recordName set = recordName other ↔ set = other := by
  simp [recordName]

lemma builtInSets_eq :
    builtInSets = RuleSet.builtIn.map fun set => (set.name, ⟨set, .builtIn⟩) := by
  have hnames : (RuleSet.builtIn.map (·.name)).Pairwise (· < ·) := by decide
  have hsorted : (RuleSet.builtIn.map (StoredSet.mk · .builtIn)).Pairwise
      fun a b => a.set.name < b.set.name :=
    List.pairwise_map.mpr (List.pairwise_map.mp hnames)
  rw [builtInSets, insertAll_of_sorted hsorted, List.map_map]
  rfl

lemma sorted_builtInSets : Sorted builtInSets := sorted_insertAll List.Pairwise.nil _

lemma keyed_builtInSets : Keyed builtInSets := keyed_insertAll (List.forall_mem_nil _) _

lemma lookup_builtInSets (name : String) :
    (builtInSets.lookup name).map (·.set) = RuleSet.builtIn.find? (·.name == name) := by
  rw [builtInSets_eq]
  generalize RuleSet.builtIn = sets
  induction sets with
  | nil => rfl
  | cons set rest ih =>
    rw [List.map_cons, lookup_cons_eq]
    by_cases hname : name = set.name
    · rw [if_pos hname, List.find?_cons_of_pos (by simp [hname])]
      rfl
    · rw [if_neg hname, List.find?_cons_of_neg (by simpa using Ne.symm hname), ih]

lemma builtIn_of_mem {e : String × StoredSet} (h : e ∈ builtInSets) :
    e.2.set ∈ RuleSet.builtIn := by
  rw [builtInSets_eq] at h
  obtain ⟨set, hset, rfl⟩ := List.mem_map.mp h
  exact hset

section

variable {directory name stem text : String} {entry : Entry} {entries : List (String × Entry)}
  {rawRecords : List RawRecord} {record : RawRecord} {source : SetSource} {content : File}
  {s : StoredSet} {e : String × StoredSet} {set : RuleSet} {files after : FileSystem} {root : Path}
  {config : RulesConfig}

lemma loadRecord?_eq_some (h : loadRecord? stem source content = some s) :
    s.set.name = stem ∧ ∃ text, RuleSet.parse? s.set.name text = some s.set := by
  obtain ⟨set, hset, rfl⟩ := Option.map_eq_some_iff.mp h
  obtain ⟨text, -, hparse⟩ := Option.bind_eq_some_iff.mp hset
  obtain ⟨-, -, -, rfl, -⟩ := RuleSet.parse?_eq_some_iff.mp hparse
  exact ⟨rfl, text, hparse⟩

lemma loadFile?_eq_some (h : loadFile? directory name entry = some s) :
    name = recordName s.set.name ∧ s.set.name ≠ "" ∧
      ∃ text, RuleSet.parse? s.set.name text = some s.set := by
  unfold loadFile? at h
  split at h
  case h_1 stem extension content hname =>
    split_ifs at h with hextension
    obtain ⟨rfl, hparse⟩ := loadRecord?_eq_some h
    obtain ⟨hstem, hne, -⟩ := Path.eq_of_splitExtension hname
    subst hextension
    exact ⟨hstem, hne, hparse⟩
  case h_2 => cases h

lemma loadFile?_recordName (h : name ≠ "") (content : File) :
    loadFile? directory (recordName name) (.file content) =
      loadRecord? name (.file (.text (Path.joinText directory (recordName name)))) content := by
  have hname : Path.splitExtension (recordName name) = (name, some recordExtension) :=
    Path.splitExtension_append h (by decide)
  simp only [loadFile?, hname, if_true]

lemma loadFile?_write (hname : set.name ≠ "") (h : set.Storable) (hread : Toml.Rereads set.toTable) :
    loadFile? directory (recordName set.name) (.file (File.ofText set.write)) =
      some ⟨set, .file (.text (Path.joinText directory (recordName set.name)))⟩ := by
  rw [loadFile?_recordName hname, loadRecord?, File.text?_ofText, Option.bind_some,
    RuleSet.parse?_write h.sound h.distinctIds hread, Option.map_some]

/-! ## Directories and the sets they hold -/

lemma eq_empty_of_mem_rawSets (h : s ∈ rawSets directory rawRecords) : s.set.name = "" := by
  obtain ⟨record, -, hload⟩ := List.mem_filterMap.mp h
  exact (loadRecord?_eq_some hload).1

lemma find?_rawSets (hname : name ≠ "") :
    (rawSets directory rawRecords).reverse.find? (·.set.name == name) = none := by
  refine List.find?_eq_none.mpr fun s hs => ?_
  rw [eq_empty_of_mem_rawSets (List.mem_reverse.mp hs)]
  simpa using Ne.symm hname

/-- Taking one file away takes away the set of its name. -/
lemma fileSets_filter (directory : String) (entries : List (String × Entry)) (name : String) :
    fileSets directory (entries.filter (·.1 != recordName name)) =
      (fileSets directory entries).filter (·.set.name != name) := by
  rw [fileSets, fileSets, List.filterMap_filter, List.filter_filterMap]
  refine List.filterMap_congr fun e _ => ?_
  cases hload : loadFile? directory e.1 e.2 with
  | none => simp [hload]
  | some s =>
    have hsame : e.1 = recordName name ↔ s.set.name = name := by
      rw [(loadFile?_eq_some hload).1, recordName_inj]
    by_cases hname : s.set.name = name <;> simp [hload, hsame, hname, Option.filter]

/-- Writing the record of a set replaces what its name led to. -/
lemma find?_fileSets_write (directory : String) (entries : List (String × Entry))
    (hname : set.name ≠ "") (h : set.Storable) (hread : Toml.Rereads set.toTable) (name : String) :
    (fileSets directory (entries.filter (·.1 != recordName set.name) ++
        [(recordName set.name, .file (File.ofText set.write))])).reverse.find? (·.set.name == name) =
      if name = set.name then some ⟨set, .file (.text (Path.joinText directory (recordName set.name)))⟩
      else (fileSets directory entries).reverse.find? (·.set.name == name) := by
  have hwritten : fileSets directory [(recordName set.name, .file (File.ofText set.write))] =
      [⟨set, .file (.text (Path.joinText directory (recordName set.name)))⟩] :=
    List.filterMap_cons_some (loadFile?_write hname h hread)
  rw [fileSets, List.filterMap_append, ← fileSets, ← fileSets, fileSets_filter, hwritten,
    List.reverse_append, List.reverse_singleton, List.singleton_append]
  by_cases hsame : name = set.name
  · rw [if_pos hsame, List.find?_cons_of_pos (by simp [hsame])]
  · rw [if_neg hsame, List.find?_cons_of_neg (by simpa using Ne.symm hsame), ← List.filter_reverse,
      List.find?_filter]
    refine congrArg (List.find? · _) (funext fun s => ?_)
    by_cases hs : s.set.name = name
    · simp [hs, hsame]
    · simp [hs]

lemma directory_load (files other : FileSystem) (root : Path) (config : RulesConfig) :
    (load files root config).directory = (load other root config).directory := rfl

lemma sets_load (files : FileSystem) (root : Path) (config : RulesConfig) :
    (load files root config).sets = insertAll builtInSets
      (fileSets (load files root config).directory
          (files.entriesAt (load files root config).directory) ++
        rawSets (load files root config).directory
          (files.rawRecordsAt (load files root config).directory)) := rfl

lemma sets_load_of_missing (h : files.canonical? (load files root config).directory = none) :
    (load files root config).sets = builtInSets := by
  obtain ⟨hentries, hraw⟩ := FileSystem.entriesAt_of_missing h
  rw [sets_load, hentries, hraw, rawSets, List.mergeSort_nil]
  rfl

lemma sorted_load (files : FileSystem) (root : Path) (config : RulesConfig) :
    Sorted (load files root config).sets :=
  sorted_insertAll sorted_builtInSets _

lemma keyed_load (files : FileSystem) (root : Path) (config : RulesConfig) :
    Keyed (load files root config).sets :=
  keyed_insertAll keyed_builtInSets _

lemma nodup_names_load (files : FileSystem) (root : Path) (config : RulesConfig) :
    ((load files root config).ruleSets.map (·.name)).Nodup := by
  have hkeys : (load files root config).sets.map (·.2.set.name) =
      (load files root config).sets.map (·.1) :=
    List.map_congr_left (keyed_load files root config)
  rw [ruleSets, List.map_map]
  exact hkeys ▸ (sorted_load files root config).nodup_keys

lemma ruleSets_load_of_missing (h : files.canonical? (load files root config).directory = none) :
    (load files root config).ruleSets = RuleSet.builtIn := by
  rw [ruleSets, sets_load_of_missing h, builtInSets_eq, List.map_map]
  exact List.map_id' _

lemma lookup_load (files : FileSystem) (root : Path) (config : RulesConfig) (name : String) :
    (load files root config).sets.lookup name =
      (((rawSets (load files root config).directory
          (files.rawRecordsAt (load files root config).directory)).reverse.find? (·.set.name == name)).or
        ((fileSets (load files root config).directory
          (files.entriesAt (load files root config).directory)).reverse.find?
            (·.set.name == name))).or (builtInSets.lookup name) := by
  rw [sets_load, lookup_insertAll, List.reverse_append, List.find?_append]

lemma isSome_get?_load (h : s ∈ fileSets (load files root config).directory
      (files.entriesAt (load files root config).directory)) :
    ((load files root config).get? s.set.name).isSome = true := by
  have hfound : ((fileSets (load files root config).directory
      (files.entriesAt (load files root config).directory)).reverse.find?
        (·.set.name == s.set.name)).isSome = true :=
    List.find?_isSome.mpr ⟨s, List.mem_reverse.mpr h, beq_self_eq_true _⟩
  rw [get?, Option.isSome_map, stored?, lookup_load, Option.isSome_or, Option.isSome_or, hfound,
    Bool.or_true, Bool.true_or]

lemma read_or_builtIn_of_mem_load (h : e ∈ (load files root config).sets) :
    (∃ text, RuleSet.parse? e.2.set.name text = some e.2.set) ∨ e.2.set ∈ RuleSet.builtIn := by
  rcases mem_of_mem_insertAll h with hloaded | hbuiltIn
  · rcases List.mem_append.mp hloaded with hfile | hraw
    · obtain ⟨file, -, hload⟩ := List.mem_filterMap.mp hfile
      exact Or.inl (loadFile?_eq_some hload).2.2
    · obtain ⟨record, -, hload⟩ := List.mem_filterMap.mp hraw
      exact Or.inl (loadRecord?_eq_some hload).2
  · exact Or.inr (builtIn_of_mem hbuiltIn)

lemma storable_of_mem_load (h : e ∈ (load files root config).sets) : e.2.set.Storable := by
  rcases read_or_builtIn_of_mem_load h with ⟨text, hparse⟩ | hbuiltIn
  · exact RuleSet.storable_of_parse? hparse
  · exact RuleSet.storable_of_mem_builtIn hbuiltIn

/-- When the record of a set replaces its file, the set replaces the one of its name. -/
lemma load_replace (hname : set.name ≠ "") (hset : set.Storable) (hread : Toml.Rereads set.toTable)
    (hentries : after.entriesAt (load files root config).directory =
      (files.entriesAt (load files root config).directory).filter (·.1 != recordName set.name) ++
        [(recordName set.name, .file (File.ofText set.write))])
    (hraw : after.rawRecordsAt (load files root config).directory =
      files.rawRecordsAt (load files root config).directory) :
    load after root config = (load files root config).withSet set := by
  have hsets : (load after root config).sets = ((load files root config).withSet set).sets := by
    refine (sorted_load after root config).ext
      (sorted_insertSet (sorted_load files root config) _ _) fun key => ?_
    rw [lookup_load after, directory_load after files, hentries, hraw,
      find?_fileSets_write _ _ hname hset hread, ← stored?, stored?_withSet, stored?, lookup_load files]
    by_cases hkey : key = set.name
    · subst hkey
      rw [if_pos rfl, if_pos rfl, find?_rawSets hname]
      rfl
    · rw [if_neg hkey, if_neg hkey]
  exact congrArg (RuleStore.mk (load files root config).directory) hsets

end

end RuleStore

end ScriptSurvey
