import Mathlib.Tactic.Common
import ScriptSurvey.Proofs.StoreFrames

/-!
# Adding a rule where a record stands

A store that was just loaded has the set of a record under its name when the record is sound, and
otherwise the built-in set of that name or none. A rule that is added comes behind the rules of that set,
and the record of the result takes the place of the file. So the rules of a sound record are kept, and
what a record holds that was passed over is lost.
-/
namespace ScriptSurvey

lemma FileSystem.readText?_write {files : FileSystem} {place : Path} {name : String}
    (hfile : files.isFile (place.child name) = true) (text : String) :
    (files.write (place.child name) (File.ofText text)).readText? (place.child name) = some text := by
  obtain ⟨hdir, -⟩ := isDir_of_isFile_child hfile
  rw [readText?, file?_write_self _ hdir, Option.bind_some, File.text?_ofText]

namespace RuleStore

section

variable {directory name setName : String} {entries : List (String × Entry)}
  {entry : Entry} {files after : FileSystem} {root : Path} {config : RulesConfig} {place : Path}
  {set : RuleSet} {store next : RuleStore} {rule : Rule}

/-! ## What a name leads to -/

lemma find?_fileSets_of_ne (h : ∀ e ∈ entries, (recordName name != e.1) = true) :
    (fileSets directory entries).reverse.find? (·.set.name == name) = none := by
  refine List.find?_eq_none.mpr fun s hs hname => ?_
  obtain ⟨e, he, hload⟩ := List.mem_filterMap.mp (List.mem_reverse.mp hs)
  refine bne_iff_ne.mp (h e he) ?_
  rw [(loadFile?_eq_some hload).1, eq_of_beq hname]

/-- A set is loaded from the file of its name, as no two files have the same one. -/
lemma find?_fileSets (hnames : (entries.map (·.1)).Nodup) (name : String) :
    (fileSets directory entries).reverse.find? (·.set.name == name) =
      (entries.lookup (recordName name)).bind (loadFile? directory (recordName name)) := by
  cases hlookup : entries.lookup (recordName name) with
  | none => exact find?_fileSets_of_ne (List.lookup_eq_none_iff.mp hlookup)
  | some e =>
    obtain ⟨front, back, rfl, hfront⟩ := List.lookup_eq_some_iff.mp hlookup
    -- the look-up ends at the first file of the name, and finding in the reversed list at the last one
    have hback : ∀ e ∈ back, (recordName name != e.1) = true := by
      intro e he
      rw [List.map_append, List.map_cons, List.nodup_middle, List.nodup_cons] at hnames
      refine bne_iff_ne.mpr fun hsame => hnames.1 ?_
      exact List.mem_append_right _ (List.mem_map.mpr ⟨e, he, hsame.symm⟩)
    have hsplit : fileSets directory (front ++ (recordName name, e) :: back) =
        fileSets directory front ++ fileSets directory [(recordName name, e)] ++
          fileSets directory back := by
      rw [fileSets, ← List.singleton_append, ← List.append_assoc, List.filterMap_append,
        List.filterMap_append]
      rfl
    rw [hsplit, List.reverse_append, List.reverse_append, List.find?_append, List.find?_append,
      find?_fileSets_of_ne hback, find?_fileSets_of_ne hfront, Option.none_or, Option.or_none,
      Option.bind_some]
    cases hload : loadFile? directory (recordName name) e with
    | none =>
      have hone : fileSets directory [(recordName name, e)] = [] := List.filterMap_cons_none hload
      rw [hone]
      rfl
    | some s =>
      have hone : fileSets directory [(recordName name, e)] = [s] := List.filterMap_cons_some hload
      have hname : recordName name = recordName s.set.name := (loadFile?_eq_some hload).1
      rw [hone, List.reverse_singleton]
      exact List.find?_cons_of_pos (beq_iff_eq.mpr (recordName_inj.mp hname).symm)

lemma set_loadFile? (h : name ≠ "") :
    (loadFile? directory (recordName name) entry).map (·.set) =
      (entry.content?.bind File.text?).bind (RuleSet.parse? name) := by
  cases entry with
  | file content =>
    rw [loadFile?_recordName h, loadRecord?, Option.map_map]
    exact Option.map_id'
  | dir entries rawRecords =>
    have hname : Path.splitExtension (recordName name) = (name, some recordExtension) :=
      Path.splitExtension_append h (by decide)
    simp only [loadFile?, hname, Entry.content?, Option.bind_none, Option.map_none]

/-- What a name leads to after loading: the record of that name, when it is sound, or the built-in set. -/
lemma get?_load (hname : name ≠ "")
    (hplace : files.canonical? (load files root config).directory = some place)
    (hnames : ((files.entriesAt (load files root config).directory).map (·.1)).Nodup) :
    (load files root config).get? name =
      ((files.readText? (place.child (recordName name))).bind (RuleSet.parse? name)).or
        (RuleSet.builtIn.find? (·.name == name)) := by
  rw [get?, stored?, lookup_load, find?_rawSets hname, Option.none_or, find?_fileSets hnames,
    Option.map_or, lookup_builtInSets, FileSystem.readText?_child hplace]
  refine congrArg (Option.or · (RuleSet.builtIn.find? (·.name == name))) ?_
  cases (files.entriesAt (load files root config).directory).lookup (recordName name) with
  | none => rfl
  | some entry => exact set_loadFile? hname

/-! ## Adding a rule -/

/-- The set that a rule is added to, when the file of the name has this text. -/
def extended (name : String) (text : Option String) : RuleSet :=
  ((text.bind (RuleSet.parse? name)).or (RuleSet.builtIn.find? (·.name == name))).getD
    (RuleSet.named name)

def withRule (set : RuleSet) (rule : Rule) : RuleSet := { set with rules := set.rules ++ [rule] }

lemma save_of_isFile (hplace : files.canonical? store.directory = some place)
    (hfile : files.isFile (place.child (recordName set.name)) = true) :
    store.save files set = .ok (store.withSet set,
      files.write (place.child (recordName set.name)) (File.ofText set.write)) := by
  obtain ⟨hdir, hfree⟩ := FileSystem.isDir_of_isFile_child hfile
  rw [save, FileSystem.makeDirs_of_canonical hplace, if_pos hdir]
  exact if_neg (Bool.eq_false_iff.mp hfree)

lemma base_add_load (hplace : files.canonical? (load files root config).directory = some place)
    (hnames : ((files.entriesAt (load files root config).directory).map (·.1)).Nodup) :
    (load files root config).base (.add setName rule) = .ok set ↔ isValidName setName = true ∧
      extended setName (files.readText? (place.child (recordName setName))) = set := by
  rw [base]
  by_cases hvalid : isValidName setName = true
  · rw [if_pos hvalid, get?_load (ne_empty_of_isValidName hvalid) hplace hnames, Except.ok.injEq,
      extended]
    exact (and_iff_right hvalid).symm
  · rw [if_neg hvalid]
    exact iff_of_false (by simp) fun h => hvalid h.1

lemma extended_cases (name : String) (text : Option String) :
    (∃ t, text = some t ∧ RuleSet.parse? name t = some (extended name text)) ∨
      (extended name text ∈ RuleSet.builtIn ∧ (extended name text).name = name) ∨
      extended name text = RuleSet.named name := by
  rw [extended]
  cases hheld : text.bind (RuleSet.parse? name) with
  | some set => exact Or.inl (Option.bind_eq_some_iff.mp hheld)
  | none =>
    rw [Option.none_or]
    cases hbuiltIn : RuleSet.builtIn.find? (·.name == name) with
    | some set =>
      have hname : set.name = name := by simpa using List.find?_some hbuiltIn
      exact Or.inr (Or.inl ⟨List.mem_of_find?_eq_some hbuiltIn, hname⟩)
    | none => exact Or.inr (Or.inr rfl)

lemma extended_name (name : String) (text : Option String) : (extended name text).name = name := by
  rcases extended_cases name text with ⟨t, -, hparse⟩ | ⟨-, hname⟩ | hnamed
  · obtain ⟨-, -, -, hname, -⟩ := RuleSet.parse?_eq_some_iff.mp hparse
    exact hname
  · exact hname
  · rw [hnamed]
    rfl

lemma storable_extended (name : String) (text : Option String) : (extended name text).Storable := by
  rcases extended_cases name text with ⟨t, -, hparse⟩ | ⟨hbuiltIn, -⟩ | hnamed
  · exact RuleSet.storable_of_parse? hparse
  · exact RuleSet.storable_of_mem_builtIn hbuiltIn
  · rw [hnamed]
    exact RuleSet.storable_named name

lemma addRule_load_eq_ok
    (hplace : files.canonical? (load files root config).directory = some place)
    (hnames : ((files.entriesAt (load files root config).directory).map (·.1)).Nodup)
    (hfile : files.isFile (place.child (recordName setName)) = true)
    (hold : extended setName (files.readText? (place.child (recordName setName))) = set) :
    (load files root config).addRule files setName rule = .ok (next, after) ↔
      (isValidName setName = true ∧
        (∃ compiled, CompiledRule.compile setName rule = .ok compiled) ∧
        ∀ other ∈ set.rules, other.id ≠ rule.id) ∧
      next = (load files root config).withSet (withRule set rule) ∧
      after = files.write (place.child (recordName setName))
        (File.ofText (withRule set rule).write) := by
  have hname : (withRule set rule).name = setName := hold ▸ extended_name _ _
  have hsave : (load files root config).save files (withRule set rule) =
      .ok ((load files root config).withSet (withRule set rule),
        files.write (place.child (recordName setName)) (File.ofText (withRule set rule).write)) := by
    rw [← hname] at hfile
    rw [save_of_isFile hplace hfile, hname]
  change (load files root config).perform files (.add setName rule) = _ ↔ _
  rw [perform_eq_ok]
  constructor
  · rintro ⟨old, new, hbase, hedit, hsaved⟩
    obtain ⟨hvalid, hheld⟩ := (base_add_load hplace hnames).mp hbase
    obtain rfl : set = old := hold.symm.trans hheld
    obtain ⟨hcompiles, hnew, rfl⟩ := Request.edit_add_eq_ok.mp hedit
    obtain ⟨rfl, rfl⟩ := Prod.mk.inj (Except.ok.inj (hsave.symm.trans hsaved))
    exact ⟨⟨hvalid, hcompiles, hnew⟩, rfl, rfl⟩
  · rintro ⟨⟨hvalid, hcompiles, hnew⟩, rfl, rfl⟩
    exact ⟨set, withRule set rule, (base_add_load hplace hnames).mpr ⟨hvalid, hold⟩,
      Request.edit_add_eq_ok.mpr ⟨hcompiles, hnew, rfl⟩, hsave⟩

/-- Adding a rule to a store that was just loaded, where a file has the name of the record. It succeeds
when the rule compiles and is new to the set that it is added to, and then the file is the record of this
set with the rule behind the others; no other file changes, and none when it fails. -/
theorem addRule_load
    (hplace : files.canonical? (load files root config).directory = some place)
    (hfile : files.isFile (place.child (recordName setName)) = true)
    (hnames : ((files.entriesAt (load files root config).directory).map (·.1)).Nodup)
    (rule : Rule) :
    let target := place.child (recordName setName)
    let old := extended setName (files.readText? target)
    let new := withRule old rule
    ((∃ next after, (load files root config).addRule files setName rule = .ok (next, after)) ↔
      isValidName setName = true ∧ (∃ compiled, CompiledRule.compile setName rule = .ok compiled) ∧
        ∀ other ∈ old.rules, other.id ≠ rule.id) ∧
      (∀ next after, (load files root config).addRule files setName rule = .ok (next, after) →
        next.get? setName = some new ∧ after.readText? target = some new.write ∧
          (∀ path, path.names ≠ target.names → after.file? path = files.file? path) ∧
          (rule.Sound → Toml.Rereads new.toTable →
            (after.readText? target).bind (RuleSet.parse? setName) = some new)) ∧
      ∀ e, (load files root config).addRule files setName rule = .error e →
        files.SameFiles ((load files root config).settle files (.error e)).2 := by
  intro target old new
  have hadd : ∀ next after,
      (load files root config).addRule files setName rule = .ok (next, after) ↔ _ :=
    fun _ _ => addRule_load_eq_ok hplace hnames hfile rfl
  refine ⟨⟨?_, ?_⟩, ?_, fun e _ => (settle_error _ files e).2⟩
  · rintro ⟨next, after, hok⟩
    exact ((hadd next after).mp hok).1
  · intro hsound
    exact ⟨_, _, (hadd _ _).mpr ⟨hsound, rfl, rfl⟩⟩
  · intro next after hok
    obtain ⟨⟨hvalid, hcompiles, hnew⟩, rfl, rfl⟩ := (hadd next after).mp hok
    obtain ⟨hdir, hfree⟩ := FileSystem.isDir_of_isFile_child hfile
    have hname : new.name = setName := extended_name _ _
    have hwritten := FileSystem.readText?_write hfile new.write
    refine ⟨?_, hwritten, fun path => FileSystem.file?_write_of_ne _ hdir hfree, ?_⟩
    · have hget : ((load files root config).withSet new).get? new.name = some new :=
        get?_withSet _ new
      rwa [hname] at hget
    · intro (hrule : (Request.add setName rule).Sound) hread
      have hedit : (Request.add setName rule).edit old = .ok new :=
        Request.edit_add_eq_ok.mpr ⟨hcompiles, hnew, rfl⟩
      have hstorable : new.Storable :=
        Request.storable_of_edit (storable_extended _ _) hrule hedit
      have hparse := RuleSet.parse?_write hstorable.sound hstorable.distinctIds hread
      rw [hname] at hparse
      rwa [hwritten, Option.bind_some]

end

/-! ## A sound record, and one that is passed over -/

def teamFiles (text : String) : FileSystem :=
  ⟨.dir [("app", .dir [(".code-atlas", .dir [("rules", .dir
    [("team.toml", .file (File.ofText text))])])])]⟩

def rulesPath : Path := ⟨true, ["app", ".code-atlas", "rules"]⟩

def teamRecord : String := "[[rules]]\nid = \"r\"\npattern = \"p\"\n"

def teamSet : RuleSet := { RuleSet.named "team" with rules := [.ofPattern "r" "p"] }

def repeatedRecord : String := teamRecord ++ teamRecord

lemma teamFiles_place : ∀ text ∈ [teamRecord, repeatedRecord],
    (teamFiles text).canonical?
        (load (teamFiles text) appRoot Config.default.rules).directory = some rulesPath ∧
      (teamFiles text).isFile (rulesPath.child (recordName "team")) = true ∧
      (((teamFiles text).entriesAt
        (load (teamFiles text) appRoot Config.default.rules).directory).map (·.1)).Nodup := by
  decide +kernel

lemma extended_teamRecord : extended "team"
    ((teamFiles teamRecord).readText? (rulesPath.child (recordName "team"))) = teamSet := by
  decide +kernel

lemma extended_repeatedRecord : extended "team"
    ((teamFiles repeatedRecord).readText? (rulesPath.child (recordName "team"))) = .named "team" := by
  decide +kernel

lemma compiles_sampleRule : isValidName "team" = true ∧
    ∃ compiled, CompiledRule.compile "team" sampleRule = .ok compiled := by
  have h : isValidName "team" = true ∧
      (CompiledRule.compile "team" sampleRule).isOk = true := by
    decide +kernel
  exact ⟨h.1, exists_of_isOk h.2⟩

lemma rereads_withRule : Toml.Rereads (withRule teamSet sampleRule).toTable := by
  have hsections : Toml.tableSections .none [] (withRule teamSet sampleRule).toTable =
      [⟨.none, [], [("name", .string "team"), ("always_apply", .boolean false)]⟩,
        ⟨.element, ["rules"], (Rule.ofPattern "r" "p").toTable⟩,
        ⟨.element, ["rules"], sampleRule.toTable⟩] := by
    cbv
  refine ⟨(withRule teamSet sampleRule).toTable, ?_, rfl⟩
  rw [Toml.write, hsections]
  decide +kernel

theorem addRule_load_teamRecord : ∃ next after,
    (load (teamFiles teamRecord) appRoot Config.default.rules).addRule (teamFiles teamRecord) "team"
      sampleRule = .ok (next, after) ∧
    (after.readText? (rulesPath.child (recordName "team"))).bind (RuleSet.parse? "team") =
      some (withRule teamSet sampleRule) := by
  obtain ⟨hplace, hfile, hnames⟩ := teamFiles_place teamRecord (by simp)
  obtain ⟨hsucceeds, hwritten, -⟩ := addRule_load hplace hfile hnames sampleRule
  rw [extended_teamRecord] at hsucceeds hwritten
  have hnew : ∀ other ∈ teamSet.rules, other.id ≠ sampleRule.id := by decide
  obtain ⟨next, after, hok⟩ := hsucceeds.mpr ⟨compiles_sampleRule.1, compiles_sampleRule.2, hnew⟩
  obtain ⟨-, -, -, hreread⟩ := hwritten next after hok
  exact ⟨next, after, hok, hreread (unknown_nil _) rereads_withRule⟩

/-- The rules of a record that repeats an identifier give way to the one that is added. -/
theorem addRule_load_repeatedRecord :
    RuleSet.read? repeatedRecord =
        some { RuleSet.named "" with rules := [.ofPattern "r" "p", .ofPattern "r" "p"] } ∧
      RuleSet.parse? "team" repeatedRecord = none ∧
      (teamFiles repeatedRecord).readText? (rulesPath.child (recordName "team")) =
        some repeatedRecord ∧
      ∃ next after, (load (teamFiles repeatedRecord) appRoot Config.default.rules).addRule
          (teamFiles repeatedRecord) "team" sampleRule = .ok (next, after) ∧
        after.readText? (rulesPath.child (recordName "team")) = some sampleSet.write := by
  obtain ⟨hplace, hfile, hnames⟩ := teamFiles_place repeatedRecord (by simp)
  have hsound : RuleSet.read? repeatedRecord =
        some { RuleSet.named "" with rules := [.ofPattern "r" "p", .ofPattern "r" "p"] } ∧
      RuleSet.parse? "team" repeatedRecord = none ∧
      (teamFiles repeatedRecord).readText? (rulesPath.child (recordName "team")) =
        some repeatedRecord := by
    decide +kernel
  have hnew : ∀ other ∈ (RuleSet.named "team").rules, other.id ≠ sampleRule.id := nofun
  refine ⟨hsound.1, hsound.2.1, hsound.2.2, _, _,
    (addRule_load_eq_ok hplace hnames hfile extended_repeatedRecord).mpr
      ⟨⟨compiles_sampleRule.1, compiles_sampleRule.2, hnew⟩, rfl, rfl⟩, ?_⟩
  exact FileSystem.readText?_write hfile _

end RuleStore

end ScriptSurvey
