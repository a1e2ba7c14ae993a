import Mathlib.Tactic.Common
import ScriptSurvey.Proofs.StoreRuns
import ScriptSurvey.Proofs.WrittenFiles

/-!
# What a request changes

A request that fails changes no set of the store and no file. One that succeeds changes one set, by the
edit that it asks for, and one file, the record of this set. This holds for every store that loading and
requests lead to, whatever happened to the files in between.
-/
namespace ScriptSurvey.RuleStore

/-! ## Stores that requests lead to -/

/-- The files may be others at each request. -/
inductive Reachable : RuleStore → Prop
  | loaded (files : FileSystem) (root : Path) (config : RulesConfig) :
      Reachable (load files root config)
  | changed {store next : RuleStore} {files after : FileSystem} {request : Request}
      (hstore : Reachable store) (h : store.perform files request = .ok (next, after)) :
      Reachable next

section

variable {store next : RuleStore} {files after : FileSystem} {request : Request}
  {set old new : RuleSet} {name : String}

lemma perform_eq_ok : store.perform files request = .ok (next, after) ↔
    ∃ old new, store.base request = .ok old ∧ request.edit old = .ok new ∧
      store.save files new = .ok (next, after) := by
  rw [perform_eq, edited_eq, bind_eq_ok]
  constructor
  · rintro ⟨new, hedited, hsave⟩
    obtain ⟨old, hold, hnew⟩ := bind_eq_ok.mp hedited
    exact ⟨old, new, hold, hnew, hsave⟩
  · rintro ⟨old, new, hold, hnew, hsave⟩
    exact ⟨new, bind_eq_ok.mpr ⟨old, hold, hnew⟩, hsave⟩

lemma Reachable.orderly (h : Reachable store) : Orderly store := by
  induction h with
  | loaded files root config => exact orderly_load files root config
  | changed _ hperform ih => exact ih.perform hperform

/-! ## The frame of a request -/

/-- The record of a set is written, and no other file. -/
def Wrote (store : RuleStore) (files : FileSystem) (set : RuleSet) (after : FileSystem) : Prop :=
  ∃ directory, after.canonical? store.directory = some directory ∧
    after.file? (directory.child (recordName set.name)) = some (File.ofText set.write) ∧
    (∀ path, path.names ≠ (directory.child (recordName set.name)).names →
      after.file? path = files.file? path) ∧
    ∀ path, after.rawRecords path = files.rawRecords path

lemma wrote_of_save (h : store.save files set = .ok (next, after)) : Wrote store files set after := by
  obtain ⟨directory, made, hmakes, hfree, hnext⟩ := save_eq_ok h
  obtain ⟨-, rfl⟩ := Prod.mk.inj hnext
  obtain ⟨hcanonical, hdir⟩ := FileSystem.canonical?_makeDirs hmakes
  obtain ⟨hafter, -⟩ := FileSystem.entriesAt_write (File.ofText set.write) hcanonical hdir hfree
  have hmade := FileSystem.sameFiles_makeDirs hmakes
  refine ⟨directory, hafter, FileSystem.file?_write_self _ hdir, fun path hpath => ?_, fun path => ?_⟩
  · rw [FileSystem.file?_write_of_ne _ hdir hfree hpath]
    exact (hmade path).1
  · rw [FileSystem.rawRecords_write _ hdir hfree]
    exact (hmade path).2

/-- What a request leaves as it is, and what it changes. The old set is that of the name in the store,
or a new one when a rule is added to a name without a set. -/
structure Framed (store : RuleStore) (files : FileSystem) (request : Request) (next : RuleStore)
    (after : FileSystem) : Prop where
  directory : next.directory = store.directory
  others : ∀ name, name ≠ request.setName → next.stored? name = store.stored? name
  edited : ∃ old new,
    (store.get? request.setName = some old ∨
      store.get? request.setName = none ∧ old = RuleSet.named request.setName) ∧
    next.get? request.setName = some new ∧ new = { old with rules := new.rules } ∧
    request.Edits old.rules new.rules ∧ Wrote store files new after

lemma framed_of_perform (hstore : Orderly store)
    (h : store.perform files request = .ok (next, after)) : Framed store files request next after := by
  obtain ⟨old, new, hold, hedit, hsave⟩ := perform_eq_ok.mp h
  have hwrote := wrote_of_save hsave
  obtain ⟨directory, made, -, -, hnext⟩ := save_eq_ok hsave
  obtain ⟨rfl, -⟩ := Prod.mk.inj hnext
  obtain ⟨hnew, hedits⟩ := Request.edits_of_edit (hstore.base hold) hedit
  have holdName : old.name = request.setName := name_of_base hstore.keyed hold
  have hname : new.name = request.setName := (congrArg RuleSet.name hnew).trans holdName
  have hbase := (base_spec hold).imp_right fun ⟨hnone, hnamed, _⟩ => And.intro hnone hnamed
  refine ⟨rfl, fun name hother => ?_, old, new, hbase, ?_, hnew, hedits, hwrote⟩
  · rw [stored?_withSet, if_neg (hname ▸ hother)]
  · rw [← hname]
    exact get?_withSet store new

lemma settle_error (store : RuleStore) (files : FileSystem) (e : Error) :
    (store.settle files (.error e)).1 = store ∧
      files.SameFiles (store.settle files (.error e)).2 := by
  cases e with
  | blocked obstacle => exact ⟨rfl, FileSystem.sameFiles_makeUntilBlocked files _ _⟩
  | invalidName | invalidRule | unknownSet | unknownRule | duplicateRule =>
    exact ⟨rfl, .refl files⟩

/-- Whatever a request does to a store and its files: nothing when it fails, and else one edit of one
set, with the record of this set. -/
theorem perform_framed (hstore : Reachable store) (files : FileSystem) (request : Request) :
    (∀ e, store.perform files request = .error e →
      (store.settle files (store.perform files request)).1 = store ∧
        files.SameFiles (store.settle files (store.perform files request)).2) ∧
      ∀ next after, store.perform files request = .ok (next, after) →
        store.settle files (store.perform files request) = (next, after) ∧
          Framed store files request next after := by
  constructor
  · intro e herror
    rw [herror]
    exact settle_error store files e
  · intro next after hok
    rw [hok]
    exact ⟨rfl, framed_of_perform hstore.orderly hok⟩

end

/-! ## A patch, and an obstacle -/

def severityPatch : RulePatch := ⟨none, none, some .error, none, none, none, none, none⟩

def patchRequest : Request := .update "react" "find-dom-node" severityPatch

/-- A file stands where the directory of the records should be made. -/
def obstructedFiles : FileSystem :=
  ⟨.dir [("app", .dir [(".code-atlas", .file (File.ofText ""))])]⟩

def obstructedState : State := opened obstructedFiles appRoot Config.default.rules

lemma isOk_perform : (sampleState.1.perform sampleState.2 patchRequest).isOk = true ∧
    (obstructedState.1.perform obstructedState.2 patchRequest).isOk = false := by
  decide +kernel

theorem perform_framed_patch :
    (∃ next after, sampleState.1.perform sampleState.2 patchRequest = .ok (next, after) ∧
      Framed sampleState.1 sampleState.2 patchRequest next after) ∧
    ∃ e, obstructedState.1.perform obstructedState.2 patchRequest = .error e ∧
      obstructedState.2.SameFiles (obstructedState.1.settle obstructedState.2
        (obstructedState.1.perform obstructedState.2 patchRequest)).2 := by
  have hsample : Reachable sampleState.1 := .loaded _ _ _
  have hobstructed : Reachable obstructedState.1 := .loaded _ _ _
  obtain ⟨hok, herror⟩ := isOk_perform
  obtain ⟨⟨next, after⟩, hperform⟩ := exists_of_isOk hok
  obtain ⟨e, hobstacle⟩ := exists_of_not_isOk herror
  have hframed := (perform_framed hsample sampleState.2 patchRequest).2 next after hperform
  have hsame := (perform_framed hobstructed obstructedState.2 patchRequest).1 e hobstacle
  exact ⟨⟨next, after, hperform, hframed.2⟩, e, hobstacle, hsame.2⟩

end ScriptSurvey.RuleStore
