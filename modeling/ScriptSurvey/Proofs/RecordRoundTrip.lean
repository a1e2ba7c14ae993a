import Mathlib.Tactic.Common
import ScriptSurvey.Proofs.RecordAdditions

/-!
# Sets that records and requests lead to

A set that was read from a record, is built in or has just been named, and whatever requests make of it,
is read from its own record as the same set: fields that are left out come back as their defaults, and
extra fields of the set and of its rules with their values. Every set of a store is one of these. Only a
rule that is added with a known field among its extra ones comes back as another rule.
-/
namespace ScriptSurvey

namespace RuleSet

open RuleStore (Request isValidName sampleRule claimingRule claimingSet)

/-- The sets that are read, built in or named, and what allowed requests make of them. -/
inductive Obtained (allowed : Request → Prop) : RuleSet → Prop
  | read {stem text : String} {set : RuleSet} (h : parse? stem text = some set) : Obtained allowed set
  | builtIn {set : RuleSet} (h : set ∈ builtIn) : Obtained allowed set
  | named {name : String} (h : isValidName name = true) : Obtained allowed (named name)
  | edited {set new : RuleSet} {request : Request} (hset : Obtained allowed set)
      (hrequest : allowed request) (h : request.edit set = .ok new) : Obtained allowed new

variable {set : RuleSet}

def richRecord : String := "[owner]\nteam = \"platform\"\n\n[detect]\npackages = [\"left-pad\"]\n\n" ++
  "[[rules]]\nid = \"r\"\npattern = \"p\"\nticket = \"T-1\"\n\n[[rules]]\nid = \"s\"\npattern = \"q\"\n"

def ticketRule : Rule := { Rule.ofPattern "r" "p" with extra := [("ticket", .string "T-1")] }

def richSet : RuleSet where
  name := "team"
  description := ""
  alwaysApply := false
  detection := ⟨["left-pad"], [], []⟩
  rules := [ticketRule, .ofPattern "s" "q"]
  extra := [("owner", .table [("team", .string "platform")])]

def shorterSet : RuleSet := { richSet with rules := [ticketRule] }

lemma parse?_richRecord : parse? "team" richRecord = some richSet ∧
    (Request.delete "team" "s").edit richSet = .ok shorterSet := by
  decide +kernel

lemma rereads_shorterSet : Toml.Rereads shorterSet.toTable := by
  have hsections : Toml.tableSections .none [] shorterSet.toTable =
      [⟨.none, [], [("name", .string "team"), ("always_apply", .boolean false)]⟩,
        ⟨.table, ["detect"], [("packages", .array [.string "left-pad"])]⟩,
        ⟨.element, ["rules"], ticketRule.toTable⟩,
        ⟨.table, ["owner"], [("team", .string "platform")]⟩] := by
    cbv
  refine ⟨shorterSet.toTable, ?_, rfl⟩
  rw [Toml.write, hsections]
  decide +kernel

end RuleSet

namespace RuleStore

section

variable {store next : RuleStore} {files after : FileSystem} {root : Path} {config : RulesConfig}
  {request : Request} {e : String × StoredSet}

lemma obtained_of_mem_load (h : e ∈ (load files root config).sets) :
    e.2.set.Obtained Request.Sound := by
  rcases read_or_builtIn_of_mem_load h with ⟨text, hparse⟩ | hbuiltIn
  · exact .read hparse
  · exact .builtIn hbuiltIn

lemma obtained_of_perform (hstore : ∀ e ∈ store.sets, e.2.set.Obtained Request.Sound)
    (hrequest : request.Sound) (h : store.perform files request = .ok (next, after)) :
    ∀ e ∈ next.sets, e.2.set.Obtained Request.Sound := by
  obtain ⟨old, new, hold, hedit, hsave⟩ := perform_eq_ok.mp h
  obtain ⟨directory, made, -, -, hnext⟩ := save_eq_ok hsave
  obtain ⟨rfl, -⟩ := Prod.mk.inj hnext
  intro e he
  rcases mem_of_mem_insertSet he with rfl | hother
  · exact .edited (base_induction hstore (fun _ => .named) hold) hrequest hedit
  · exact hstore e hother

lemma obtained_of_run {state : State} (hstate : ∀ e ∈ state.1.sets, e.2.set.Obtained Request.Sound)
    {requests : List Request} (hrequests : ∀ request ∈ requests, request.Sound) :
    ∀ e ∈ (run state requests).1.sets, e.2.set.Obtained Request.Sound := by
  induction requests generalizing state with
  | nil => exact hstate
  | cons request rest ih =>
    obtain ⟨hrequest, hrest⟩ := List.forall_mem_cons.mp hrequests
    have hnext : ∀ e ∈ (step state request).1.sets, e.2.set.Obtained Request.Sound := by
      rw [step]
      cases hperform : state.1.perform state.2 request with
      | error e => exact hstate
      | ok next => exact obtained_of_perform hstate hrequest hperform
    exact ih hnext hrest

/-- Whatever was loaded and whatever requests followed, the store has such sets only. -/
theorem obtained_of_mem_run {requests : List Request}
    (hrequests : ∀ request ∈ requests, request.Sound)
    (h : e ∈ (run (opened files root config) requests).1.sets) : e.2.set.Obtained Request.Sound :=
  obtained_of_run (fun _ => obtained_of_mem_load) hrequests e h

end

end RuleStore

end ScriptSurvey
