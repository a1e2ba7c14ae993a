import Mathlib
import ScriptSurvey.Proofs.RuleEdits

/-!
# Runs of a store

A store and the files of its directory are changed together. Along every run of requests, whether they
succeed or fail, each set stands under its name and has each rule identifier once, and loading the
directory gives the store again, as long as only sets with a name are written.
-/
namespace ScriptSurvey.RuleStore

/-! ## Carrying out requests -/

def perform (store : RuleStore) (files : FileSystem) :
    Request → Except Error (RuleStore × FileSystem)
  | .add setName rule => store.addRule files setName rule
  | .update setName id patch => (·.2) <$> store.updateRule files setName id patch
  | .delete setName id => (·.2) <$> store.deleteRule files setName id

def edited (store : RuleStore) : Request → Except Error RuleSet
  | .add setName rule => do
    if !isValidName setName then throw (.invalidName setName)
    compiles setName rule
    let set := (store.get? setName).getD (RuleSet.named setName)
    if (set.rule? rule.id).isSome then throw (.duplicateRule setName rule.id)
    return { set with rules := set.rules ++ [rule] }
  | .update setName id patch => do
    let set ← store.existing setName
    let (rule, place) ← existingRule set setName id
    compiles setName (patch.apply rule)
    return { set with rules := set.rules.set place (patch.apply rule) }
  | .delete setName id => do
    let set ← store.existing setName
    let (_, place) ← existingRule set setName id
    return { set with rules := set.rules.eraseIdx place }

lemma perform_eq (store : RuleStore) (files : FileSystem) (request : Request) :
    store.perform files request = store.edited request >>= store.save files := by
  cases request with
  | add setName rule =>
    rw [perform, addRule, edited]
    cases isValidName setName
    · rfl
    · cases hrule : (((store.get? setName).getD (RuleSet.named setName)).rule? rule.id).isSome <;>
        simp [hrule]
  | update setName id patch =>
    simp [perform, updateRule, edited]
  | delete setName id =>
    simp [perform, deleteRule, edited]

/-- The set that a request is about. One that does not exist is taken as empty when a rule is added. -/
def base (store : RuleStore) : Request → Except Error RuleSet
  | .add setName _ =>
    if isValidName setName then .ok ((store.get? setName).getD (RuleSet.named setName))
    else .error (.invalidName setName)
  | .update setName .. | .delete setName _ => store.existing setName

lemma edited_eq (store : RuleStore) (request : Request) :
    store.edited request = store.base request >>= request.edit := by
  cases request with
  | add setName rule =>
    rw [edited, base]
    cases isValidName setName <;> rfl
  | update setName id patch => rfl
  | delete setName id => rfl

section

variable {store : RuleStore} {setName : String} {set : RuleSet} {request : Request}

lemma existing_eq_ok : store.existing setName = .ok set ↔ store.get? setName = some set := by
  rw [existing]
  cases store.get? setName with
  | none => simp
  | some other => simp

lemma exists_of_get? (h : store.get? setName = some set) :
    ∃ s, (setName, s) ∈ store.sets ∧ s.set = set := by
  obtain ⟨s, hstored, rfl⟩ := Option.map_eq_some_iff.mp h
  obtain ⟨front, back, hsets, -⟩ := List.lookup_eq_some_iff.mp hstored
  exact ⟨s, hsets ▸ List.mem_append_right _ List.mem_cons_self, rfl⟩

/-- The set is one of the store, or a new one without rules. -/
lemma base_spec (h : store.base request = .ok set) :
    store.get? request.setName = some set ∨
      store.get? request.setName = none ∧ set = RuleSet.named request.setName ∧
        isValidName request.setName = true := by
  cases request with
  | add setName rule =>
    rw [base] at h
    split_ifs at h with hvalid
    obtain rfl := Except.ok.inj h
    rw [Request.setName]
    cases hget : store.get? setName with
    | none => exact Or.inr ⟨rfl, rfl, hvalid⟩
    | some old => exact Or.inl rfl
  | update setName id patch => exact Or.inl (existing_eq_ok.mp h)
  | delete setName id => exact Or.inl (existing_eq_ok.mp h)

/-- Whatever holds of all sets of a store, and of new ones, holds of the set that a request is about. -/
lemma base_induction {p : RuleSet → Prop} (hstore : ∀ e ∈ store.sets, p e.2.set)
    (hnamed : ∀ name, isValidName name = true → p (RuleSet.named name))
    (h : store.base request = .ok set) : p set := by
  rcases base_spec h with hget | ⟨-, rfl, hvalid⟩
  · obtain ⟨s, hs, rfl⟩ := exists_of_get? hget
    exact hstore _ hs
  · exact hnamed _ hvalid

lemma name_of_base (hstore : Keyed store.sets) (h : store.base request = .ok set) :
    set.name = request.setName := by
  rcases base_spec h with hget | ⟨-, rfl, -⟩
  · obtain ⟨s, hs, rfl⟩ := exists_of_get? hget
    exact hstore _ hs
  · rfl

lemma storable_of_edited (hstore : ∀ e ∈ store.sets, e.2.set.Storable) (hrequest : request.Sound)
    (h : store.edited request = .ok set) : set.Storable := by
  rw [edited_eq, bind_eq_ok] at h
  obtain ⟨old, hold, hedit⟩ := h
  have hbase : old.Storable := base_induction hstore (fun _ _ => RuleSet.storable_named _) hold
  exact Request.storable_of_edit hbase hrequest hedit

end

/-! ## Runs -/

abbrev State := RuleStore × FileSystem

/-- A request that fails leaves everything as it is. -/
def step (state : State) (request : Request) : State :=
  match state.1.perform state.2 request with
  | .ok next => next
  | .error _ => state

def run (state : State) (requests : List Request) : State := requests.foldl step state

def written (state : State) : List Request → List RuleSet
  | [] => []
  | request :: rest =>
    (state.1.edited request).toOption.toList ++ written (step state request) rest

lemma step_of_error {state : State} {request : Request} {e : Error}
    (h : state.1.edited request = .error e) : step state request = state := by
  rw [step, perform_eq, h]
  rfl

lemma step_of_edited {state : State} {request : Request} {set : RuleSet}
    (h : state.1.edited request = .ok set) : step state request =
      match state.1.save state.2 set with
      | .ok next => next
      | .error _ => state := by
  rw [step, perform_eq, h]
  rfl

lemma save_eq_ok {store : RuleStore} {files : FileSystem} {set : RuleSet} {next : State}
    (h : store.save files set = .ok next) : ∃ directory made,
      files.makeDirs store.directory = .ok (directory, made) ∧
      made.isDir (directory.child (recordName set.name)) = false ∧
      next = (store.withSet set,
        made.write (directory.child (recordName set.name)) (File.ofText set.write)) := by
  rw [save] at h
  cases hmakes : files.makeDirs store.directory with
  | error obstacle => simp [hmakes] at h
  | ok result =>
    simp only [hmakes] at h
    split_ifs at h with hdir
    exact ⟨result.1, result.2, rfl, Bool.not_eq_true _ ▸ hdir, (Except.ok.inj h).symm⟩

/-! ## The sets of a store along a run -/

/-- A map that has each set under its name, and rules with identifiers of their own. -/
structure Orderly (store : RuleStore) : Prop where
  sorted : Sorted store.sets
  keyed : Keyed store.sets
  distinctIds : ∀ e ∈ store.sets, e.2.set.DistinctIds

section

variable {store : RuleStore} {files : FileSystem} {request : Request} {set : RuleSet}
  {state next : State}

lemma orderly_load (files : FileSystem) (root : Path) (config : RulesConfig) :
    Orderly (load files root config) where
  sorted := sorted_load files root config
  keyed := keyed_load files root config
  distinctIds := fun _ he => (storable_of_mem_load he).distinctIds

lemma Orderly.base (h : Orderly store) (hbase : store.base request = .ok set) : set.DistinctIds :=
  base_induction h.distinctIds (fun _ _ => List.nodup_nil) hbase

lemma Orderly.edited (h : Orderly store) (hedited : store.edited request = .ok set) :
    set.DistinctIds := by
  rw [edited_eq, bind_eq_ok] at hedited
  obtain ⟨old, hold, hedit⟩ := hedited
  exact Request.distinctIds_of_edit (h.base hold) hedit

lemma Orderly.withSet (h : Orderly store) (hset : set.DistinctIds) : Orderly (store.withSet set) where
  sorted := sorted_insertSet h.sorted _ _
  keyed := keyed_insertSet h.keyed ⟨set, _⟩
  distinctIds := by
    intro e he
    rcases mem_of_mem_insertSet he with rfl | hold
    · exact hset
    · exact h.distinctIds e hold

lemma Orderly.perform (h : Orderly store) (hperform : store.perform files request = .ok next) :
    Orderly next.1 := by
  rw [perform_eq, bind_eq_ok] at hperform
  obtain ⟨set, hedited, hsave⟩ := hperform
  obtain ⟨_, _, -, -, rfl⟩ := save_eq_ok hsave
  exact h.withSet (h.edited hedited)

lemma Orderly.step (h : Orderly state.1) (request : Request) : Orderly (step state request).1 := by
  rw [RuleStore.step]
  cases hperform : state.1.perform state.2 request with
  | error e => exact h
  | ok next => exact h.perform hperform

lemma mem_toList_edited : set ∈ (store.edited request).toOption.toList ↔
    store.edited request = .ok set := by
  cases store.edited request <;> simp [Except.toOption, eq_comm]

lemma Orderly.run (h : Orderly state.1) (requests : List Request) :
    Orderly (run state requests).1 ∧ ∀ set ∈ written state requests, set.DistinctIds := by
  induction requests generalizing state with
  | nil => exact ⟨h, fun _ hset => nomatch hset⟩
  | cons request rest ih =>
    obtain ⟨hlast, hlater⟩ := ih (h.step request)
    refine ⟨hlast, List.forall_mem_append.mpr ⟨fun set hset => ?_, hlater⟩⟩
    exact h.edited (mem_toList_edited.mp hset)

end

/-! ## Stores that are read back -/

structure Mirrored (root : Path) (config : RulesConfig) (state : State) : Prop where
  loads : load state.2 root config = state.1
  settled : state.2.Settled state.1.directory

section

variable {root : Path} {config : RulesConfig} {state next : State} {set : RuleSet}

/-- Writing one set keeps store and files together. -/
lemma Mirrored.save (h : Mirrored root config state) (hname : set.name ≠ "") (hset : set.Storable)
    (hread : Toml.Rereads set.toTable) (hsave : state.1.save state.2 set = .ok next) :
    Mirrored root config next := by
  obtain ⟨store, files⟩ := state
  obtain ⟨hloads, hsettled⟩ := h
  change load files root config = store at hloads
  subst hloads
  obtain ⟨directory, made, hmakes, hfree, rfl⟩ := save_eq_ok hsave
  obtain ⟨hcanonical, hthere⟩ := FileSystem.canonical?_makeDirs hmakes
  obtain ⟨hafter, hentries, hraw⟩ := FileSystem.entriesAt_write (File.ofText set.write)
    hcanonical hthere hfree
  obtain ⟨hmade, hmadeRaw⟩ := hsettled directory made hmakes
  exact ⟨load_replace hname hset hread (hmade ▸ hentries) (hraw.trans hmadeRaw),
    FileSystem.settled_of_canonical (Option.isSome_iff_exists.mpr ⟨_, hafter⟩)⟩

lemma Mirrored.step (h : Mirrored root config state) {request : Request}
    (hrequest : request.Sound)
    (hname : ∀ set, state.1.edited request = .ok set → set.name ≠ "")
    (hread : ∀ set, state.1.edited request = .ok set → Toml.Rereads set.toTable) :
    Mirrored root config (step state request) := by
  cases hedited : state.1.edited request with
  | error e =>
    rw [step_of_error hedited]
    exact h
  | ok set =>
    rw [step_of_edited hedited]
    have hset : set.Storable :=
      storable_of_edited (fun _ he => storable_of_mem_load (h.loads ▸ he)) hrequest hedited
    cases hsave : state.1.save state.2 set with
    | error e => exact h
    | ok next => exact h.save (hname set hedited) hset (hread set hedited) hsave

/-- A whole run keeps them together, by one step for each request. -/
lemma Mirrored.run (h : Mirrored root config state) {requests : List Request}
    (hrequests : ∀ request ∈ requests, request.Sound)
    (hname : ∀ set ∈ written state requests, set.name ≠ "")
    (hread : ∀ set ∈ written state requests, Toml.Rereads set.toTable) :
    Mirrored root config (run state requests) := by
  induction requests generalizing state with
  | nil => exact h
  | cons request rest ih =>
    obtain ⟨hrequest, hrest⟩ := List.forall_mem_cons.mp hrequests
    obtain ⟨hnameFirst, hnameLater⟩ := List.forall_mem_append.mp hname
    obtain ⟨hreadFirst, hreadLater⟩ := List.forall_mem_append.mp hread
    have hstep := h.step hrequest (fun set hset => hnameFirst set (mem_toList_edited.mpr hset))
      fun set hset => hreadFirst set (mem_toList_edited.mpr hset)
    exact ih hstep hrest hnameLater hreadLater

end

def opened (files : FileSystem) (root : Path) (config : RulesConfig) : State :=
  (load files root config, files)

/-- After every run each key is the name of its set, and rule identifiers are distinct. The directory
holds the same store when making it brings nothing into view and no set without a name is written. -/
theorem load_run (files : FileSystem) (root : Path) (config : RulesConfig) (requests : List Request) :
    let state := run (opened files root config) requests
    (∀ key s, (key, s) ∈ state.1.sets → s.set.name = key) ∧
      (∀ key s, state.1.stored? key = some s ↔ (key, s) ∈ state.1.sets) ∧
      (∀ key s, (key, s) ∈ state.1.sets → s.set.DistinctIds) ∧
      (∀ set ∈ written (opened files root config) requests, set.DistinctIds) ∧
      (files.Settled (opened files root config).1.directory →
        (∀ request ∈ requests, request.Sound) →
        (∀ set ∈ written (opened files root config) requests, set.name ≠ "") →
        (∀ set ∈ written (opened files root config) requests, Toml.Rereads set.toTable) →
        load state.2 root config = state.1) := by
  intro state
  have hopened : Orderly (opened files root config).1 := orderly_load files root config
  obtain ⟨hstate, hwritten⟩ := hopened.run requests
  refine ⟨fun _ _ => hstate.keyed _, fun _ _ => hstate.sorted.lookup_eq_some_iff,
    fun _ _ => hstate.distinctIds _, hwritten, fun hsettled hrequests hname hread => ?_⟩
  have hmirrored : Mirrored root config (opened files root config) := ⟨rfl, hsettled⟩
  exact (hmirrored.run hrequests hname hread).loads

/-! ## A run that is read back -/

def appRoot : Path := ⟨true, ["app"]⟩

def sampleRule : Rule := .ofPattern "q" "q"

def sampleSet : RuleSet := { RuleSet.named "team" with rules := [sampleRule] }

def sampleState : State := opened .empty appRoot Config.default.rules

def sampleRequests : List Request :=
  [.add "team" sampleRule, .add "team" sampleRule, .delete "team" "q"]

/-- A rule with a known field among the extra ones. -/
def claimingRule : Rule := { sampleRule with extra := [("message", .string "m")] }

def claimingSet : RuleSet := { RuleSet.named "team" with rules := [claimingRule] }

lemma parse?_write_samples : ∀ set ∈ [sampleSet, .named "team", .named "", claimingSet],
    Toml.parse? (Toml.write set.toTable) = some set.toTable := by
  have hsample : Toml.tableSections .none [] sampleSet.toTable =
      [⟨.none, [], [("name", .string "team"), ("always_apply", .boolean false)]⟩,
        ⟨.element, ["rules"], sampleRule.toTable⟩] := by
    cbv
  have hempty : Toml.tableSections .none [] (RuleSet.named "team").toTable =
      [⟨.none, [], (RuleSet.named "team").toTable⟩] := by
    cbv
  have hnameless : Toml.tableSections .none [] (RuleSet.named "").toTable =
      [⟨.none, [], (RuleSet.named "").toTable⟩] := by
    cbv
  have hclaiming : Toml.tableSections .none [] claimingSet.toTable =
      [⟨.none, [], [("name", .string "team"), ("always_apply", .boolean false)]⟩,
        ⟨.element, ["rules"], claimingRule.toTable⟩] := by
    cbv
  simp only [List.forall_mem_cons, Toml.write, hsample, hempty, hnameless, hclaiming]
  decide +kernel

lemma rereads_of_mem_samples {set : RuleSet}
    (h : set ∈ [sampleSet, .named "team", .named "", claimingSet]) : Toml.Rereads set.toTable :=
  ⟨set.toTable, parse?_write_samples set h, rfl⟩

lemma sound_of_mem_sampleRequests {request : Request} (h : request ∈ sampleRequests) :
    request.Sound := by
  simp only [sampleRequests, List.mem_cons, List.not_mem_nil, or_false] at h
  obtain rfl | rfl | rfl := h
  · exact unknown_nil _
  · exact unknown_nil _
  · trivial

lemma settled_sampleState : FileSystem.empty.Settled sampleState.1.directory :=
  FileSystem.settled_of_noUp (by decide +kernel)

lemma written_sample : written sampleState sampleRequests = [sampleSet, .named "team"] := by
  decide +kernel

theorem load_run_sample :
    (∀ request ∈ sampleRequests, request.Sound) ∧
      (∀ set ∈ written sampleState sampleRequests, Toml.Rereads set.toTable) ∧
      written sampleState sampleRequests = [sampleSet, .named "team"] ∧
      load (run sampleState sampleRequests).2 appRoot Config.default.rules =
        (run sampleState sampleRequests).1 := by
  have hread : ∀ set ∈ written sampleState sampleRequests, Toml.Rereads set.toTable := by
    rw [written_sample]
    intro set hset
    exact rereads_of_mem_samples (List.mem_append_left [RuleSet.named "", claimingSet] hset)
  have hname : ∀ set ∈ written sampleState sampleRequests, set.name ≠ "" := by
    rw [written_sample]
    decide
  have hrequests : ∀ request ∈ sampleRequests, request.Sound := fun _ => sound_of_mem_sampleRequests
  obtain ⟨-, -, -, -, hload⟩ := load_run .empty appRoot Config.default.rules sampleRequests
  exact ⟨hrequests, hread, written_sample, hload settled_sampleState hrequests hname hread⟩

/-! ## Stores that are not read back -/

def otherRecord : String := "[[rules]]\nid = \"r\"\npattern = \"p\"\n"

/-- The rules lie where no path leads as long as `x` is missing. -/
def hiddenFiles : FileSystem :=
  ⟨.dir [("app", .dir [("rules", .dir [("other.toml", .file (File.ofText otherRecord))])])]⟩

def hiddenConfig : RulesConfig := { Config.default.rules with directory := "x/../rules" }

def rawFiles : FileSystem :=
  ⟨.dir [("app", .dir [(".code-atlas", .dir [("rules",
    .dir [] [{ stem := [0xff], content := File.ofText otherRecord }])])])]⟩

def hiddenState : State := opened hiddenFiles appRoot hiddenConfig

def rawState : State := opened rawFiles appRoot Config.default.rules

/-- The first set that is written brings another one into view. -/
lemma hiddenState_add : hiddenState.1.edited (.add "team" sampleRule) = .ok sampleSet ∧
    (step hiddenState (.add "team" sampleRule)).1.get? "other" = none ∧
    (fileSets hiddenState.1.directory ((step hiddenState (.add "team" sampleRule)).2.entriesAt
      hiddenState.1.directory)).any (·.set.name == "other") = true := by
  decide +kernel

lemma load_step_hidden :
    (load (step hiddenState (.add "team" sampleRule)).2 appRoot hiddenConfig).get? "other" ≠
      (step hiddenState (.add "team" sampleRule)).1.get? "other" := by
  obtain ⟨-, hnone, hloaded⟩ := hiddenState_add
  obtain ⟨s, hs, hname⟩ := List.any_eq_true.mp hloaded
  have hsome : ((load (step hiddenState (.add "team" sampleRule)).2 appRoot hiddenConfig).get?
      s.set.name).isSome = true := isSome_get?_load hs
  rw [eq_of_beq hname] at hsome
  intro hsame
  rw [hsame, hnone] at hsome
  cases hsome

lemma sampleState_claim : sampleState.1.edited (.add "team" claimingRule) = .ok claimingSet ∧
    (step sampleState (.add "team" claimingRule)).1.get? "team" = some claimingSet := by
  decide +kernel

/-- What is read has no such rule. -/
lemma load_step_claiming :
    (load (step sampleState (.add "team" claimingRule)).2 appRoot
        Config.default.rules).get? "team" ≠
      (step sampleState (.add "team" claimingRule)).1.get? "team" := by
  intro hsame
  rw [sampleState_claim.2] at hsame
  obtain ⟨s, hs, hset⟩ := exists_of_get? hsame
  have hsound : s.set.Sound := (storable_of_mem_load hs).sound
  rw [hset] at hsound
  have hrule : claimingRule.Sound := hsound.rules claimingRule (List.mem_singleton.mpr rfl)
  cases hrule.lookup_eq_none (by decide : "message" ∈ Rule.knownKeys)

/-- The set without a name is written to a file that is not read, and the raw record stays. -/
lemma load_step_raw : rawState.1.edited (.delete "" "r") = .ok (.named "") ∧
    rawState.2.canonical? rawState.1.directory ≠ none ∧
    (load (step rawState (.delete "" "r")).2 appRoot Config.default.rules).get? "" ≠
      (step rawState (.delete "" "r")).1.get? "" := by
  decide +kernel

/-- A directory may come into view with the first set that is written, an extra field may be read as a
known one, and the set without a name is read from raw records only. -/
theorem load_run_differs :
    (¬ ∀ (files : FileSystem) (root : Path) (config : RulesConfig) (requests : List Request),
      (∀ request ∈ requests, request.Sound) →
      (∀ set ∈ written (opened files root config) requests, set.name ≠ "") →
      (∀ set ∈ written (opened files root config) requests, Toml.Rereads set.toTable) →
      load (run (opened files root config) requests).2 root config =
        (run (opened files root config) requests).1) ∧
    (¬ ∀ (files : FileSystem) (root : Path) (config : RulesConfig) (requests : List Request),
      files.Settled (opened files root config).1.directory →
      (∀ set ∈ written (opened files root config) requests, set.name ≠ "") →
      (∀ set ∈ written (opened files root config) requests, Toml.Rereads set.toTable) →
      load (run (opened files root config) requests).2 root config =
        (run (opened files root config) requests).1) ∧
    ¬ ∀ (files : FileSystem) (root : Path) (config : RulesConfig) (requests : List Request),
      files.Settled (opened files root config).1.directory →
      (∀ request ∈ requests, request.Sound) →
      (∀ set ∈ written (opened files root config) requests, Toml.Rereads set.toTable) →
      load (run (opened files root config) requests).2 root config =
        (run (opened files root config) requests).1 := by
  refine ⟨fun hall => ?_, fun hall => ?_, fun hall => ?_⟩
  · have hwritten : written hiddenState [.add "team" sampleRule] = [sampleSet] := by
      rw [written, hiddenState_add.1, written]
      rfl
    have hload := hall hiddenFiles appRoot hiddenConfig [.add "team" sampleRule]
      (List.forall_mem_singleton.mpr (unknown_nil _)) (hwritten ▸ by decide)
      (hwritten ▸ List.forall_mem_singleton.mpr (rereads_of_mem_samples (by simp)))
    exact load_step_hidden (congrArg (get? · "other") hload)
  · have hwritten : written sampleState [.add "team" claimingRule] = [claimingSet] := by
      rw [written, sampleState_claim.1, written]
      rfl
    have hload := hall .empty appRoot Config.default.rules [.add "team" claimingRule]
      settled_sampleState (hwritten ▸ by decide)
      (hwritten ▸ List.forall_mem_singleton.mpr (rereads_of_mem_samples (by simp)))
    exact load_step_claiming (congrArg (get? · "team") hload)
  · have hwritten : written rawState [.delete "" "r"] = [.named ""] := by
      rw [written, load_step_raw.1, written]
      rfl
    have hsettled : rawFiles.Settled rawState.1.directory :=
      FileSystem.settled_of_canonical (Option.isSome_iff_ne_none.mpr load_step_raw.2.1)
    have hload := hall rawFiles appRoot Config.default.rules [.delete "" "r"] hsettled
      (List.forall_mem_singleton.mpr trivial)
      (hwritten ▸ List.forall_mem_singleton.mpr (rereads_of_mem_samples (by simp)))
    exact load_step_raw.2.2 (congrArg (get? · "") hload)

end ScriptSurvey.RuleStore
