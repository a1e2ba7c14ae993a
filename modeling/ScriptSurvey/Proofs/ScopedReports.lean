import Mathlib.Data.Nat.Choose.Basic
import ScriptSurvey.Metrics.Complexity
import ScriptSurvey.Metrics.Documentation
import ScriptSurvey.Metrics.FileSize
import ScriptSurvey.Metrics.Similarity
import ScriptSurvey.Proofs.LivenessReport
import ScriptSurvey.Proofs.ProjectRoots

/-!
# Reports below a directory

What an analysis finds in a sheet depends on the whole project, but not on the directory that is
asked about. So the report of a directory lists what the report of the project lists for the files
there, in the same order: the sheets are chosen first, and sorting is stable.
-/
namespace ScriptSurvey
open Std

/-! ## Files of a project -/

namespace Project

/-- The file that a path stands for when it is seen from the root of the project. -/
def locate (project : Project) (file : Path) : Path :=
  if project.root == .empty then file
  else ⟨project.root.anchored, project.root.names ++ file.names⟩

def isBelow (project : Project) (scope file : Path) : Bool := (project.locate file).startsWith scope

def Rooted (project : Project) : Prop := ∀ s ∈ project.sheets, s.path.startsWith project.root = true

section

variable {project : Project} {scope path : Path}

lemma locate_relative (h : path.startsWith project.root = true) :
    project.locate (project.relative path) = path := by
  rw [locate, relative, Path.below?]
  by_cases hroot : project.root = .empty
  · simp [hroot]
  · obtain ⟨hanchored, hnames⟩ := (Path.startsWith_iff.mp h).resolve_left hroot
    rw [if_neg (by simpa using hroot), if_neg (by simpa using hroot), if_pos h, Option.getD_some,
      ← hanchored]
    congr 1
    exact List.prefix_iff_eq_append.mp hnames

lemma isBelow_relative (h : path.startsWith project.root = true) :
    project.isBelow scope (project.relative path) = path.startsWith scope := by
  rw [isBelow, locate_relative h]

lemma inScope_root (h : project.Rooted) : project.inScope project.root = project.sheets :=
  List.filter_eq_self.mpr h

end

end Project

/-! ## Choosing before and after -/

section

variable {α β : Type}

/-- Parts whose elements share the choice of what they come from can be chosen before or after they
are joined. -/
lemma flatMap_filter_of_shared {p : α → Bool} {q : β → Bool} {f : α → List β} {l : List α}
    (h : ∀ a ∈ l, ∀ b ∈ f a, q b = p a) : (l.filter p).flatMap f = (l.flatMap f).filter q := by
  rw [List.filter_flatMap]
  induction l with
  | nil => rfl
  | cons a l ih =>
    have hrest := ih fun b hb => h b (List.mem_cons_of_mem a hb)
    have hhead := h a (List.mem_cons_self ..)
    by_cases ha : p a = true
    · have hall : (f a).filter q = f a := List.filter_eq_self.mpr fun b hb => (hhead b hb).trans ha
      rw [List.filter_cons_of_pos ha, List.flatMap_cons, List.flatMap_cons, hall, hrest]
    · have hnone : (f a).filter q = [] := List.filter_eq_nil_iff.mpr fun b hb => by
        rwa [hhead b hb]
      rw [List.filter_cons_of_neg ha, List.flatMap_cons, hnone, hrest, List.nil_append]

lemma filter_mergeSort_isLE (cmp : α → α → Ordering) [TransCmp cmp] (p : α → Bool) (l : List α) :
    (l.mergeSort fun a b => (cmp a b).isLE).filter p =
      (l.filter p).mergeSort fun a b => (cmp a b).isLE :=
  filter_mergeSort (fun _ _ _ => TransCmp.isLE_trans) (isLE_total cmp) p l

/-- The larger key comes first. -/
instance transCmp_compareOn_flip [Ord β] [TransOrd β] (key : α → β) :
    TransCmp fun a b => compareOn key b a :=
  TransCmp.opposite

end

section

variable {α : Type} {project : Project}

/-- What chosen sheets contribute below a scope is what they contribute to the project, as far as it
belongs to files there. -/
lemma flatMap_inScope (hrooted : project.Rooted) (scope : Path) (chosen : FactSheet → Bool)
    {found : FactSheet → List α} (file : α → Path)
    (hfile : ∀ s, ∀ a ∈ found s, file a = project.relative s.path) :
    ((project.inScope scope).filter chosen).flatMap found =
      (((project.inScope project.root).filter chosen).flatMap found).filter
        (project.isBelow scope <| file ·) := by
  rw [Project.inScope_root hrooted, Project.inScope, List.filter_comm]
  refine flatMap_filter_of_shared fun s hs a ha => ?_
  rw [hfile s a ha, Project.isBelow_relative (hrooted s (List.mem_filter.mp hs).1)]

end

/-! ## Liveness -/

namespace Liveness

variable {files : FileSystem} {project : Project} {scope : Path} {config : LivenessConfig}

lemma file_of_mem_sheetItems {s : FactSheet} {x : DeadItem}
    (hx : x ∈ sheetItems files project config s) : x.file = project.relative s.path := by
  rw [sheetItems, List.mem_append, List.mem_append] at hx
  rcases hx with (hx | hx) | hx
  · obtain ⟨d, -, rfl⟩ := List.mem_map.mp hx
    rfl
  · split_ifs at hx
    · cases hx
    · obtain ⟨b, -, rfl⟩ := List.mem_map.mp hx
      rfl
  · rw [unusedLocals] at hx
    split at hx
    · cases hx
    · obtain ⟨b, -, rfl⟩ := List.mem_map.mp hx
      rfl

/-- The sheets of a report are chosen by the scope and by what is reportable at all. -/
lemma reportedSheets_eq (hrooted : project.Rooted) : reportedSheets project scope =
    (project.inScope scope).filter (Reportable project project.root ·) := by
  rw [reportedSheets, Project.inScope, List.filter_filter]
  refine List.filter_congr fun s hs => ?_
  rw [Bool.eq_iff_iff, Bool.and_eq_true, decide_eq_true_eq, decide_eq_true_eq]
  constructor
  · rintro ⟨hbelow, hparsed, htest, hgenerated⟩
    exact ⟨⟨hrooted s hs, hparsed, htest, hgenerated⟩, hbelow⟩
  · rintro ⟨⟨-, hparsed, htest, hgenerated⟩, hbelow⟩
    exact ⟨hbelow, hparsed, htest, hgenerated⟩

lemma deadItems_scope (hrooted : project.Rooted) : deadItems files project scope config =
    (deadItems files project project.root config).filter (project.isBelow scope ·.file) := by
  rw [deadItems_eq_mergeSort, deadItems_eq_mergeSort, filter_mergeSort itemLe_trans itemLe_total,
    reportedSheets_eq hrooted, reportedSheets_eq hrooted,
    flatMap_inScope hrooted scope _ _ fun s x hx => file_of_mem_sheetItems hx]

end Liveness

/-! ## Complexity -/

namespace Complexity

variable {project : Project} {scope : Path} {minScore : ℕ}

def itemCompare : Item → Item → Ordering :=
  compareLex (fun a b => compareOn Item.score b a)
    (compareLex (compareOn Item.file) (compareOn Item.line))

instance : TransCmp itemCompare := inferInstanceAs (TransCmp (compareLex _ _))

lemma itemLe_eq : itemLe = fun a b => (itemCompare a b).isLE := rfl

lemma items_scope (hrooted : project.Rooted) : items project scope minScore =
    (items project project.root minScore).filter (project.isBelow scope ·.file) := by
  rw [items, items, itemLe_eq, filter_mergeSort_isLE, flatMap_inScope hrooted scope _ Item.file]
  intro s x hx
  obtain ⟨f, -, rfl⟩ := List.mem_map.mp hx
  rfl

end Complexity

/-! ## Documentation -/

namespace Documentation

variable {project : Project} {scope : Path}

def candidatesOf (project : Project) (s : FactSheet) : List (Path × Declaration) :=
  let file := project.relative s.path
  if FileRole.isTest file.toString || FileRole.isGenerated file.toString then []
  else (s.declarations.filter fun d => d.kind != .method && d.exported).map (file, ·)

lemma candidates_eq : candidates project scope =
    ((project.inScope scope).filter fun _ => true).flatMap (candidatesOf project) := by
  rw [List.filter_true]
  rfl

lemma file_of_mem_candidatesOf {s : FactSheet} {x : Path × Declaration}
    (hx : x ∈ candidatesOf project s) : x.1 = project.relative s.path := by
  rw [candidatesOf] at hx
  split_ifs at hx
  · cases hx
  · obtain ⟨d, -, rfl⟩ := List.mem_map.mp hx
    rfl

lemma candidates_scope (hrooted : project.Rooted) : candidates project scope =
    (candidates project project.root).filter (project.isBelow scope ·.1) := by
  rw [candidates_eq, candidates_eq,
    flatMap_inScope hrooted scope _ Prod.fst fun s x hx => file_of_mem_candidatesOf hx]

lemma undocumented_scope (hrooted : project.Rooted) : undocumented project scope =
    (undocumented project project.root).filter (project.isBelow scope ·.file) := by
  rw [undocumented, candidates_scope hrooted, List.filter_comm, undocumented, List.filter_map]
  rfl

end Documentation

/-! ## File sizes -/

namespace FileSize

variable {project : Project} {scope : Path} {thresholds : FileSizeConfig}

def itemCompare : Item → Item → Ordering :=
  compareLex (fun a b => compareOn Item.points b a)
    (compareLex (fun a b => compareOn Item.lines b a) (compareOn Item.file))

instance : TransCmp itemCompare := inferInstanceAs (TransCmp (compareLex _ _))

lemma itemLe_eq : itemLe = fun a b => (itemCompare a b).isLE := rfl

lemma measured_scope (hrooted : project.Rooted) : measured project scope thresholds =
    (measured project project.root thresholds).filter (project.isBelow scope ·.file) := by
  simp only [measured, ← List.flatMap_pure_eq_map]
  refine flatMap_inScope hrooted scope _ _ fun s x hx => ?_
  rw [List.mem_singleton.mp hx]
  rfl

lemma items_scope (hrooted : project.Rooted) : items project scope thresholds =
    (items project project.root thresholds).filter (project.isBelow scope ·.file) := by
  rw [items, items, itemLe_eq, filter_mergeSort_isLE, measured_scope hrooted, List.filter_comm]

end FileSize

/-! ## Similarity -/

namespace Similarity

variable {project : Project} {scope : Path} {threshold : ℕ}

def pairCompare : Pair → Pair → Ordering :=
  compareLex (fun x y => compareOn Pair.score y x)
    (compareLex (compareOn (·.first.file)) (compareLex (compareOn (·.first.line))
      (compareLex (compareOn (·.second.file)) (compareOn (·.second.line)))))

instance : TransCmp pairCompare := inferInstanceAs (TransCmp (compareLex _ _))

lemma pairLe_eq : pairLe = fun x y => (pairCompare x y).isLE := rfl

lemma signatures_scope (hrooted : project.Rooted) : signatures project scope =
    (signatures project project.root).filter (project.isBelow scope ·.file) := by
  rw [signatures, flatMap_inScope hrooted scope _ Signature.file]
  · rfl
  · intro s g hg
    obtain ⟨f, -, hf⟩ := List.mem_filterMap.mp (List.mem_filter.mp hg).1
    obtain ⟨_, -, rfl⟩ := Option.map_eq_some_iff.mp hf
    rfl

lemma files_of_pairOf? {a b : Signature} {x : Pair} (h : pairOf? threshold a b = some x) :
    x.first.file = a.file ∧ x.second.file = b.file := by
  rw [pairOf?] at h
  dsimp only at h
  split_ifs at h
  rw [← Option.some.inj h]
  exact ⟨rfl, rfl⟩

def Pair.within (p : Path → Bool) (x : Pair) : Bool := p x.first.file && p x.second.file

lemma filter_pairOf? (p : Path → Bool) (a b : Signature) :
    (pairOf? threshold a b).filter (Pair.within p) =
      if p a.file && p b.file then pairOf? threshold a b else none := by
  cases hpair : pairOf? threshold a b with
  | none => simp
  | some x =>
    obtain ⟨hfirst, hsecond⟩ := files_of_pairOf? hpair
    rw [Option.filter_some, Pair.within, hfirst, hsecond]

lemma filter_filterMap_pairOf? (p : Path → Bool) (a : Signature) (l : List Signature) :
    (l.filterMap (pairOf? threshold a)).filter (Pair.within p) =
      if p a.file then (l.filter (p ·.file)).filterMap (pairOf? threshold a) else [] := by
  rw [List.filter_filterMap, List.filterMap_filter]
  simp only [filter_pairOf?]
  by_cases ha : p a.file = true <;> simp [ha]

lemma pairsFrom_filter (p : Path → Bool) (l : List Signature) :
    pairsFrom threshold (l.filter (p ·.file)) =
      (pairsFrom threshold l).filter (Pair.within p) := by
  induction l with
  | nil => rfl
  | cons a l ih =>
    rw [pairsFrom, List.filter_append, filter_filterMap_pairOf?, ← ih, List.filter_cons]
    split_ifs
    · rw [pairsFrom]
    · rw [List.nil_append]

lemma length_pairsFrom_le (l : List Signature) :
    (pairsFrom threshold l).length ≤ l.length.choose 2 := by
  induction l with
  | nil => exact Nat.zero_le _
  | cons a l ih =>
    have hhead : (l.filterMap (pairOf? threshold a)).length ≤ l.length :=
      List.length_filterMap_le ..
    rw [pairsFrom, List.length_append, List.length_cons, Nat.choose_succ_succ, Nat.choose_one_right]
    exact Nat.add_le_add hhead ih

lemma pairs_scope (hrooted : project.Rooted) : pairs project scope threshold =
    (pairs project project.root threshold).filter (Pair.within (project.isBelow scope)) := by
  rw [pairs, pairs, pairLe_eq, filter_mergeSort_isLE, signatures_scope hrooted, pairsFrom_filter]

end Similarity

/-! ## All reports -/

namespace Project

lemma take_eq_filter_take {α : Type} {all part : List α} {p : α → Bool} {limit limit' : ℕ}
    (h : part = all.filter p) (hall : all.length ≤ limit) (hpart : part.length ≤ limit') :
    part.take limit' = (all.take limit).filter p := by
  rw [List.take_of_length_le hall, List.take_of_length_le hpart, h]

/-- Where no limit cuts, each report of a scope lists what the report of the whole project lists for
the files below the scope, in the same order. A pair of similar functions is listed when both are
there. -/
theorem reports_scope (files : FileSystem) (project : Project) (hrooted : project.Rooted)
    (scope : Path) (config : LivenessConfig) (thresholds : FileSizeConfig)
    (minScore threshold limit limit' : ℕ) :
    (let whole := Liveness.classify files project project.root config limit
      let part := Liveness.classify files project scope config limit'
      whole.total ≤ limit → part.total ≤ limit' →
        part.items = whole.items.filter (project.isBelow scope ·.file)) ∧
    (let whole := Complexity.report project project.root minScore limit
      let part := Complexity.report project scope minScore limit'
      whole.total ≤ limit → part.total ≤ limit' →
        part.items = whole.items.filter (project.isBelow scope ·.file)) ∧
    (let whole := Documentation.report project project.root limit
      let part := Documentation.report project scope limit'
      whole.total ≤ limit → part.total ≤ limit' →
        part.items = whole.items.filter (project.isBelow scope ·.file)) ∧
    (let whole := FileSize.report project project.root thresholds limit
      let part := FileSize.report project scope thresholds limit'
      whole.total ≤ limit → part.total ≤ limit' →
        part.items = whole.items.filter (project.isBelow scope ·.file)) ∧
    (let whole := Similarity.report project project.root threshold limit
      let part := Similarity.report project scope threshold limit'
      whole.total ≤ limit → part.total ≤ limit' →
        part.pairs = whole.pairs.filter fun x =>
          project.isBelow scope x.first.file && project.isBelow scope x.second.file) :=
  ⟨take_eq_filter_take (Liveness.deadItems_scope hrooted),
    take_eq_filter_take (Complexity.items_scope hrooted),
    take_eq_filter_take (Documentation.undocumented_scope hrooted),
    take_eq_filter_take (FileSize.items_scope hrooted),
    take_eq_filter_take (Similarity.pairs_scope hrooted)⟩

/-- A script with a function that nothing calls and an export without a comment. -/
def loneSheet (names : List String) (name : String) : FactSheet :=
  { FactSheet.failed ⟨true, names⟩ .javaScript 900 with
    parseFailed := false
    declarations := [⟨name, .function, none, 1, false, false⟩,
      ⟨name ++ "All", .function, none, 8, true, false⟩]
    functions := [⟨name, none, .declaration, 1, 7, ["x"], false, [.branch, .leave, .raise], []⟩] }

/-- Scripts in two directories, one of whose names begins with the other. -/
def splitProject : Project where
  root := ⟨true, ["app"]⟩
  sheets := [loneSheet ["app", "lib", "a.js"] "parse", loneSheet ["app", "libs", "b.js"] "write",
    loneSheet ["app", "lib", "c.js"] "read"]

def libScope : Path := ⟨true, ["app", "lib"]⟩

lemma total_splitProject {scope : Path} (h : scope = splitProject.root ∨ scope = libScope) :
    (Liveness.classify .empty splitProject scope Config.default.liveness 9).total ≤ 9 ∧
    (Complexity.report splitProject scope 1 9).total ≤ 9 ∧
    (Documentation.report splitProject scope 9).total ≤ 9 ∧
    (FileSize.report splitProject scope Config.default.fileSize 9).total ≤ 9 ∧
    (Similarity.report splitProject scope 60 9).total ≤ 9 := by
  have hsignatures : (Similarity.signatures splitProject scope).length.choose 2 ≤ 9 := by
    rcases h with rfl | rfl <;> decide +kernel
  refine ⟨?_, (List.length_mergeSort _).trans_le ?_, ?_, (List.length_mergeSort _).trans_le ?_,
    (List.length_mergeSort _).trans_le ((Similarity.length_pairsFrom_le _).trans hsignatures)⟩
  · rw [Liveness.classify_total]
    rcases h with rfl | rfl <;> decide +kernel
  all_goals rcases h with rfl | rfl <;> decide +kernel

theorem reports_scope_splitProject :
    splitProject.Rooted ∧
    (Documentation.report splitProject libScope 9).items.map (·.name) = ["parseAll", "readAll"] ∧
    (Liveness.classify .empty splitProject libScope Config.default.liveness 9).items =
      (Liveness.classify .empty splitProject splitProject.root
        Config.default.liveness 9).items.filter (splitProject.isBelow libScope ·.file) ∧
    (Complexity.report splitProject libScope 1 9).items =
      (Complexity.report splitProject splitProject.root 1 9).items.filter
        (splitProject.isBelow libScope ·.file) ∧
    (Documentation.report splitProject libScope 9).items =
      (Documentation.report splitProject splitProject.root 9).items.filter
        (splitProject.isBelow libScope ·.file) ∧
    (FileSize.report splitProject libScope Config.default.fileSize 9).items =
      (FileSize.report splitProject splitProject.root Config.default.fileSize 9).items.filter
        (splitProject.isBelow libScope ·.file) ∧
    (Similarity.report splitProject libScope 60 9).pairs =
      (Similarity.report splitProject splitProject.root 60 9).pairs.filter fun x =>
        splitProject.isBelow libScope x.first.file &&
          splitProject.isBelow libScope x.second.file := by
  have hrooted : splitProject.Rooted := by unfold Rooted; decide +kernel
  obtain ⟨hdead, hcomplex, hbare, hlarge, hsimilar⟩ := reports_scope .empty splitProject hrooted
    libScope Config.default.liveness Config.default.fileSize 1 60 9 9
  obtain ⟨h₁, h₂, h₃, h₄, h₅⟩ := total_splitProject (Or.inl rfl)
  obtain ⟨h₁', h₂', h₃', h₄', h₅'⟩ := total_splitProject (Or.inr rfl)
  exact ⟨hrooted, by decide +kernel, hdead h₁ h₁', hcomplex h₂ h₂', hbare h₃ h₃', hlarge h₄ h₄',
    hsimilar h₅ h₅'⟩

end Project

end ScriptSurvey
