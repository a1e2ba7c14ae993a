import Mathlib.Data.List.Nodup
import Mathlib.Tactic.Common
import ScriptSurvey.Health.Redundancy
import ScriptSurvey.Proofs.TextOrder

/-!
# Redundant packages

A package is redundant when the manifest lists it for development too, or when a family has a member
before it that the manifest lists. The two are looked for apart, so that a package to which both
apply is found twice.
-/
namespace ScriptSurvey

namespace Manifest

/-! ## Tables of a manifest -/

/-- No table lists a package twice. -/
structure Tabular (m : Manifest) : Prop where
  dependencies : m.dependencies.Nodup
  devDependencies : m.devDependencies.Nodup
  peerDependencies : m.peerDependencies.Nodup

section

variable {m m' : Manifest} {value : Json.Value} {field : Field}

lemma tabular_empty : empty.Tabular := ⟨List.nodup_nil, List.nodup_nil, List.nodup_nil⟩

lemma nodup_of_readTable? {names : List String} (h : readTable? value = some names) :
    names.Nodup := by
  cases value with
  | object members =>
    obtain ⟨-, hnames⟩ := Option.ite_none_right_eq_some.mp h
    rw [← Option.some.inj hnames]
    exact (Text.pairwise_sortedDistinct _).imp fun hlt => String.ne_of_lt hlt
  | _ => cases h

lemma Tabular.set? (hm : m.Tabular) (h : m.set? field value = some m') : m'.Tabular := by
  cases field with
  | main | module =>
    obtain ⟨_, -, rfl⟩ := Option.map_eq_some_iff.mp h
    exact ⟨hm.dependencies, hm.devDependencies, hm.peerDependencies⟩
  | dependencies =>
    obtain ⟨names, hnames, rfl⟩ := Option.map_eq_some_iff.mp h
    exact ⟨nodup_of_readTable? hnames, hm.devDependencies, hm.peerDependencies⟩
  | devDependencies =>
    obtain ⟨names, hnames, rfl⟩ := Option.map_eq_some_iff.mp h
    exact ⟨hm.dependencies, nodup_of_readTable? hnames, hm.peerDependencies⟩
  | peerDependencies =>
    obtain ⟨names, hnames, rfl⟩ := Option.map_eq_some_iff.mp h
    exact ⟨hm.dependencies, hm.devDependencies, nodup_of_readTable? hnames⟩

lemma Tabular.readMembers? {members : List (Option String × Json.Value)} {seen : List Field}
    (hm : m.Tabular) (h : readMembers? m seen members = some m') : m'.Tabular := by
  induction members generalizing m seen with
  | nil => exact Option.some.inj h ▸ hm
  | cons member rest ih =>
    obtain ⟨key | key, value⟩ := member
    · cases h
    · rw [Manifest.readMembers?] at h
      cases hfield : Field.ofKey? key with
      | none =>
        rw [hfield] at h
        exact ih hm h
      | some field =>
        rw [hfield] at h
        obtain ⟨-, h⟩ := Option.ite_none_left_eq_some.mp h
        obtain ⟨next, hnext, h⟩ := Option.bind_eq_some_iff.mp h
        exact ih (hm.set? hnext) h

lemma Tabular.readItems? {fields : List Field} {items : List Json.Value} (hm : m.Tabular)
    (h : readItems? m fields items = some m') : m'.Tabular := by
  induction fields generalizing m items with
  | nil =>
    cases items with
    | nil => exact Option.some.inj h ▸ hm
    | cons value rest => cases h
  | cons field fields ih =>
    cases items with
    | nil => exact Option.some.inj h ▸ hm
    | cons value rest =>
      obtain ⟨next, hnext, h⟩ := Option.bind_eq_some_iff.mp h
      exact ih (hm.set? hnext) h

lemma tabular_of_parse? {text : String} (h : parse? text = some m) : m.Tabular := by
  obtain ⟨value, -, h⟩ := Option.bind_eq_some_iff.mp h
  cases value with
  | object members => exact tabular_empty.readMembers? h
  | array items => exact tabular_empty.readItems? h
  | _ => cases h

end

end Manifest

namespace Health

/-! ## The two ways to be redundant -/

def ListedTwice (m : Manifest) (name : String) : Prop :=
  name ∈ m.dependencies ∧ name ∈ m.devDependencies

/-- The manifest lists the package, and an earlier member of a family of it. -/
def Overlaps (m : Manifest) (name : String) : Prop :=
  ∃ family ∈ families, name ∈ family.members ∧ m.dependsOn name = true ∧
    family.members.find? m.dependsOn ≠ some name

instance : DecidableRel ListedTwice := fun m name =>
  inferInstanceAs (Decidable (name ∈ m.dependencies ∧ name ∈ m.devDependencies))

instance : DecidableRel Overlaps := fun m name =>
  inferInstanceAs (Decidable (∃ family ∈ families, name ∈ family.members ∧
    m.dependsOn name = true ∧ family.members.find? m.dependsOn ≠ some name))

section

variable {m : Manifest} {name : String}

lemma nodup_members : (families.flatMap (·.members)).Nodup := by decide

lemma mem_tail_filter_iff {α : Type} {l : List α} {p : α → Bool} (hl : l.Nodup) {x : α} :
    x ∈ (l.filter p).tail ↔ x ∈ l ∧ p x = true ∧ l.find? p ≠ some x := by
  have hfilter : x ∈ l.filter p ↔ x ∈ l ∧ p x = true := List.mem_filter
  rw [← List.head?_filter, ← and_assoc, ← hfilter]
  have hnodup : (l.filter p).Nodup := hl.filter _
  cases hkept : l.filter p with
  | nil => simp
  | cons first rest =>
    rw [hkept, List.nodup_cons] at hnodup
    rw [List.tail_cons, List.mem_cons, List.head?_cons, ne_eq, Option.some.injEq]
    constructor
    · intro hx
      exact ⟨Or.inr hx, fun heq => hnodup.1 (heq ▸ hx)⟩
    · rintro ⟨heq | hx, hne⟩
      · exact absurd heq.symm hne
      · exact hx

lemma map_name_listedTwice (m : Manifest) :
    (listedTwice m).map (·.name) = m.dependencies.filter m.devDependencies.contains := by
  simp [listedTwice, Function.comp_def]

lemma map_name_overlapping (m : Manifest) (family : Family) :
    (overlapping m family).map (·.name) = (family.members.filter m.dependsOn).tail := by
  rw [overlapping]
  cases family.members.filter m.dependsOn <;> simp [Function.comp_def]

lemma map_name_redundantDependencies (m : Manifest) :
    (redundantDependencies m).map (·.name) =
      m.dependencies.filter m.devDependencies.contains ++
        families.flatMap fun family => (family.members.filter m.dependsOn).tail := by
  rw [redundantDependencies, List.map_append, List.map_flatMap, map_name_listedTwice]
  simp only [map_name_overlapping]

lemma mem_listedTwice_iff :
    name ∈ m.dependencies.filter m.devDependencies.contains ↔ ListedTwice m name := by
  simp [ListedTwice]

lemma mem_overlapping_iff :
    (name ∈ families.flatMap fun family => (family.members.filter m.dependsOn).tail) ↔
      Overlaps m name := by
  have hmembers := (List.nodup_flatMap.mp nodup_members).1
  rw [List.mem_flatMap]
  exact exists_congr fun family => and_congr_right fun hfamily =>
    mem_tail_filter_iff (hmembers family hfamily)

lemma nodup_overlapping (m : Manifest) :
    (families.flatMap fun family => (family.members.filter m.dependsOn).tail).Nodup := by
  have hsublist (family : Family) :
      (family.members.filter m.dependsOn).tail.Sublist family.members :=
    (List.tail_sublist _).trans List.filter_sublist
  obtain ⟨hmembers, hapart⟩ := List.nodup_flatMap.mp nodup_members
  refine List.nodup_flatMap.mpr ⟨fun family hfamily =>
    (hmembers family hfamily).sublist (hsublist family), hapart.imp fun {f g} h => ?_⟩
  exact List.disjoint_of_subset_left (hsublist f).subset
    (List.disjoint_of_subset_right (hsublist g).subset h)

/-- A package is found once for each way in which it is redundant. -/
lemma count_redundant (hm : m.Tabular) (name : String) :
    ((redundantDependencies m).map (·.name)).count name =
      (if ListedTwice m name then 1 else 0) + if Overlaps m name then 1 else 0 := by
  rw [map_name_redundantDependencies, List.count_append, (hm.dependencies.filter _).count,
    (nodup_overlapping m).count]
  simp only [mem_listedTwice_iff, mem_overlapping_iff]

end

/-- The names found are those of the redundant packages. A name is found once, and once more when the
package is both listed twice and behind another one of its family; without such a package all names
are distinct. A text that is no manifest stands for the empty one. -/
theorem redundant_names (text : String) :
    let m := (Manifest.parse? text).getD Manifest.empty
    let names := (redundantDependencies m).map (·.name)
    (∀ name, name ∈ names ↔ ListedTwice m name ∨ Overlaps m name) ∧
      (∀ name ∈ names, names.count name = if ListedTwice m name ∧ Overlaps m name then 2 else 1) ∧
      (names.Nodup ↔ ∀ name, ¬(ListedTwice m name ∧ Overlaps m name)) := by
  intro m names
  have hm : m.Tabular := by
    cases h : Manifest.parse? text with
    | none => simpa [m, h] using Manifest.tabular_empty
    | some read => simpa [m, h] using Manifest.tabular_of_parse? h
  have hcount := count_redundant hm
  have hmem (name : String) : name ∈ names ↔ ListedTwice m name ∨ Overlaps m name := by
    rw [← List.count_pos_iff, hcount]
    by_cases htwice : ListedTwice m name <;> by_cases hoverlaps : Overlaps m name <;>
      simp [htwice, hoverlaps]
  refine ⟨hmem, fun name hname => ?_, ?_⟩
  · rw [hcount]
    have hredundant := (hmem name).mp hname
    by_cases htwice : ListedTwice m name <;> by_cases hoverlaps : Overlaps m name <;>
      simp_all
  · rw [List.nodup_iff_count_le_one]
    refine forall_congr' fun name => ?_
    rw [hcount]
    by_cases htwice : ListedTwice m name <;> by_cases hoverlaps : Overlaps m name <;>
      simp [htwice, hoverlaps]

/-- A manifest that lists `dayjs` twice, and the member of its family before it. -/
def datesManifest : String :=
  "\x7b\"dependencies\": \x7b\"dayjs\": \"1\"\x7d, \"devDependencies\": \x7b\"dayjs\": \"1\"\x7d, "
    ++ "\"peerDependencies\": \x7b\"moment\": \"2\"\x7d\x7d"

/-- The one redundant package is found twice. -/
theorem redundant_names_repeated :
    let names := (redundantDependencies
      ((Manifest.parse? datesManifest).getD Manifest.empty)).map (·.name)
    names = ["dayjs", "dayjs"] ∧ ¬names.Nodup := by
  have hnames : (redundantDependencies
      ((Manifest.parse? datesManifest).getD Manifest.empty)).map (·.name) = ["dayjs", "dayjs"] := by
    decide +kernel
  exact ⟨hnames, by simp [hnames]⟩

end Health

end ScriptSurvey
