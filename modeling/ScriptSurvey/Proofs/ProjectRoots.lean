import ScriptSurvey.Proofs.Directories
import ScriptSurvey.Walk

/-!
# Project roots

The root of a project is the nearest ancestor of a path that is marked, so every path lies below its
root. All directories between a path and its root have this root, and a root is its own project root.
-/
namespace ScriptSurvey

namespace Path

section

variable {p q r : Path}

lemma startsWith_iff :
    p.startsWith q = true ↔ q = empty ∨ p.anchored = q.anchored ∧ q.names <+: p.names := by
  simp [startsWith]

lemma startsWith_trans (hpq : p.startsWith q = true) (hqr : q.startsWith r = true) :
    p.startsWith r = true := by
  rw [startsWith_iff] at hpq hqr ⊢
  rcases hqr with rfl | ⟨hanchored, hnames⟩
  · exact Or.inl rfl
  · rcases hpq with rfl | ⟨hanchored', hnames'⟩
    · -- nothing but the empty path is above the empty path
      refine Or.inl ?_
      obtain ⟨anchored, names⟩ := r
      simp only [empty, List.prefix_nil] at hanchored hnames
      rw [← hanchored, hnames]
      rfl
    · exact Or.inr ⟨hanchored'.trans hanchored, hnames.trans hnames'⟩

lemma mem_ancestors_iff : q ∈ p.ancestors ↔ q.anchored = p.anchored ∧ q.names <+: p.names := by
  simp only [ancestors, List.mem_map, List.mem_reverse, List.mem_range]
  constructor
  · rintro ⟨n, -, rfl⟩
    exact ⟨rfl, List.take_prefix n _⟩
  · rintro ⟨hanchored, hnames⟩
    refine ⟨q.names.length, Nat.lt_succ_of_le hnames.length_le, ?_⟩
    rw [← List.prefix_iff_eq_take.mp hnames, ← hanchored]

lemma self_mem_ancestors (p : Path) : p ∈ p.ancestors :=
  mem_ancestors_iff.mpr ⟨rfl, List.prefix_refl _⟩

lemma ancestors_subset (h : q ∈ p.ancestors) : q.ancestors ⊆ p.ancestors := by
  intro r hr
  rw [mem_ancestors_iff] at h hr ⊢
  exact ⟨hr.1.trans h.1, hr.2.trans h.2⟩

lemma eq_of_mem_ancestors (hp : p ∈ q.ancestors) (hq : q ∈ p.ancestors) : p = q := by
  rw [mem_ancestors_iff] at hp hq
  have hnames : p.names = q.names := hp.2.eq_of_length_le hq.2.length_le
  obtain ⟨anchored, names⟩ := p
  obtain rfl : anchored = q.anchored := hp.1
  obtain rfl : names = q.names := hnames
  rfl

lemma ancestors_concat (anchored : Bool) (names : List String) (name : String) :
    ancestors ⟨anchored, names ++ [name]⟩ =
      ⟨anchored, names ++ [name]⟩ :: ancestors ⟨anchored, names⟩ := by
  rw [ancestors, List.length_append, List.length_singleton, List.range_succ, List.reverse_append,
    List.reverse_singleton, List.singleton_append, List.map_cons, ancestors]
  refine congrArg₂ _ ?_ (List.map_congr_left fun n hn => ?_)
  · rw [List.take_of_length_le (by simp)]
  · have hle : n ≤ names.length := Nat.lt_succ_iff.mp (by simpa using hn)
    rw [List.take_append_of_le_length hle]

lemma startsWith_of_mem_ancestors (h : q ∈ p.ancestors) : p.startsWith q = true :=
  startsWith_iff.mpr (Or.inr ⟨(mem_ancestors_iff.mp h).1.symm, (mem_ancestors_iff.mp h).2⟩)

end

end Path

namespace Walk

section

variable {files : FileSystem} {start path root dir : Path} {marker : String}

/-! ## The nearest ancestor with a marker -/

/-- Of a directory and its ancestors, the nearest one that holds the marker. -/
structure IsNearest (files : FileSystem) (marker : String) (start root : Path) : Prop where
  mem_ancestors : root ∈ start.ancestors
  marked : hasMarker files marker root = true
  nearest : ∀ dir ∈ start.ancestors, hasMarker files marker dir = true → dir ∈ root.ancestors

/-- What is nearest to a directory is nearest to all directories on the way. -/
lemma IsNearest.between (h : IsNearest files marker start root) (hdir : dir ∈ start.ancestors)
    (hroot : root ∈ dir.ancestors) : IsNearest files marker dir root :=
  ⟨hroot, h.marked, fun q hq => h.nearest q (Path.ancestors_subset hdir hq)⟩

/-- By induction on the names of the directory. -/
lemma isNearest_of_find? (h : start.ancestors.find? (hasMarker files marker) = some root) :
    IsNearest files marker start root := by
  refine ⟨List.mem_of_find?_eq_some h, List.find?_some h, ?_⟩
  obtain ⟨anchored, names⟩ := start
  induction names using List.reverseRecOn with
  | nil =>
    have hself : root ∈ Path.ancestors ⟨anchored, []⟩ := List.mem_of_find?_eq_some h
    intro dir hdir _
    rw [Path.mem_ancestors_iff] at hself hdir ⊢
    exact ⟨hdir.1.trans hself.1.symm, hdir.2.trans List.nil_prefix⟩
  | append_singleton names name ih =>
    rw [Path.ancestors_concat] at h ⊢
    intro dir hdir hmarker
    cases hself : hasMarker files marker ⟨anchored, names ++ [name]⟩ with
    | true =>
      rw [List.find?_cons_of_pos hself, Option.some_inj] at h
      rwa [← h, Path.ancestors_concat]
    | false =>
      rw [List.find?_cons_of_neg (Bool.eq_false_iff.mp hself)] at h
      rcases List.mem_cons.mp hdir with rfl | hdir
      · rw [hself] at hmarker
        cases hmarker
      · exact ih h dir hdir hmarker

lemma find?_ancestors_eq_some_iff :
    start.ancestors.find? (hasMarker files marker) = some root ↔
      IsNearest files marker start root := by
  refine ⟨isNearest_of_find?, fun h => ?_⟩
  cases hfind : start.ancestors.find? (hasMarker files marker) with
  | none => exact absurd h.marked (List.find?_eq_none.mp hfind root h.mem_ancestors)
  | some found =>
    have hfound := isNearest_of_find? hfind
    rw [Path.eq_of_mem_ancestors (h.nearest found hfound.mem_ancestors hfound.marked)
      (hfound.nearest root h.mem_ancestors h.marked)]

/-! ## The root above a directory -/

/-- Where the search for the root of a path begins: a file belongs to its directory. -/
def searchStart (files : FileSystem) (path : Path) : Path :=
  if files.isFile path then path.parent?.getD path else path

def rootAbove (files : FileSystem) (start : Path) : Path :=
  ((start.ancestors.find? (hasMarker files "package.json")).or
    (start.ancestors.find? (hasMarker files ".git"))).getD start

def Unmarked (files : FileSystem) (marker : String) (start : Path) : Prop :=
  ∀ dir ∈ start.ancestors, hasMarker files marker dir = false

/-- The root of a directory is the nearest one above with a manifest. A repository counts only where
there is no manifest at all, and the directory itself only where there is neither. -/
inductive IsRoot (files : FileSystem) (start root : Path) : Prop
  | manifest : IsNearest files "package.json" start root → IsRoot files start root
  | repository : Unmarked files "package.json" start → IsNearest files ".git" start root →
      IsRoot files start root
  | unmarked : Unmarked files "package.json" start → Unmarked files ".git" start → root = start →
      IsRoot files start root

lemma find?_ancestors_eq_none_iff :
    start.ancestors.find? (hasMarker files marker) = none ↔ Unmarked files marker start := by
  simp [Unmarked]

lemma Unmarked.above (h : Unmarked files marker start) (hdir : dir ∈ start.ancestors) :
    Unmarked files marker dir :=
  fun q hq => h q (Path.ancestors_subset hdir hq)

lemma isRoot_rootAbove (files : FileSystem) (start : Path) :
    IsRoot files start (rootAbove files start) := by
  rw [rootAbove]
  cases hmanifest : start.ancestors.find? (hasMarker files "package.json") with
  | some root => exact .manifest (isNearest_of_find? hmanifest)
  | none =>
    have hnone := find?_ancestors_eq_none_iff.mp hmanifest
    cases hrepository : start.ancestors.find? (hasMarker files ".git") with
    | some root => exact .repository hnone (isNearest_of_find? hrepository)
    | none => exact .unmarked hnone (find?_ancestors_eq_none_iff.mp hrepository) rfl

lemma IsRoot.rootAbove_eq (h : IsRoot files start root) : rootAbove files start = root := by
  rw [rootAbove]
  cases h with
  | manifest hnearest =>
    rw [find?_ancestors_eq_some_iff.mpr hnearest]
    rfl
  | repository hnone hnearest =>
    rw [find?_ancestors_eq_none_iff.mpr hnone, find?_ancestors_eq_some_iff.mpr hnearest]
    rfl
  | unmarked hnone hnone' hself =>
    rw [find?_ancestors_eq_none_iff.mpr hnone, find?_ancestors_eq_none_iff.mpr hnone', hself]
    rfl

lemma IsRoot.mem_ancestors (h : IsRoot files start root) : root ∈ start.ancestors := by
  cases h with
  | manifest hnearest => exact hnearest.mem_ancestors
  | repository _ hnearest => exact hnearest.mem_ancestors
  | unmarked _ _ hself => exact hself ▸ root.self_mem_ancestors

lemma IsRoot.between (h : IsRoot files start root) (hdir : dir ∈ start.ancestors)
    (hroot : root ∈ dir.ancestors) : IsRoot files dir root := by
  cases h with
  | manifest hnearest => exact .manifest (hnearest.between hdir hroot)
  | repository hnone hnearest =>
    exact .repository (hnone.above hdir) (hnearest.between hdir hroot)
  | unmarked hnone hnone' hself =>
    subst hself
    exact .unmarked (hnone.above hdir) (hnone'.above hdir) (Path.eq_of_mem_ancestors hroot hdir)

/-- A root is marked, or it is where the search began. -/
lemma IsRoot.cases (h : IsRoot files start root) :
    root = start ∨ ∃ marker, hasMarker files marker root = true := by
  cases h with
  | manifest hnearest => exact .inr ⟨_, hnearest.marked⟩
  | repository _ hnearest => exact .inr ⟨_, hnearest.marked⟩
  | unmarked _ _ hself => exact .inl hself

lemma rootAbove_rootAbove (files : FileSystem) (start : Path) :
    rootAbove files (rootAbove files start) = rootAbove files start := by
  have hroot := isRoot_rootAbove files start
  exact (hroot.between hroot.mem_ancestors (Path.self_mem_ancestors _)).rootAbove_eq

/-! ## The root of a path -/

lemma searchStart_mem_ancestors (files : FileSystem) (path : Path) :
    searchStart files path ∈ path.ancestors := by
  rw [searchStart, Path.parent?]
  split_ifs
  · exact path.self_mem_ancestors
  · exact Path.mem_ancestors_iff.mpr ⟨rfl, List.dropLast_prefix _⟩
  · exact path.self_mem_ancestors

lemma findProjectRoot_eq (files : FileSystem) (path : Path) :
    findProjectRoot files path = rootAbove files (searchStart files path) := rfl

lemma not_isFile_of_child {name : String} (h : (files.entry? (path.child name)).isSome = true) :
    files.isFile path = false :=
  FileSystem.not_isFile_of_isDir (FileSystem.isDir_of_child h)

lemma searchStart_of_not_isFile (h : files.isFile path = false) : searchStart files path = path := by
  rw [searchStart, if_neg (Bool.eq_false_iff.mp h)]

lemma searchStart_searchStart (files : FileSystem) (path : Path) :
    searchStart files (searchStart files path) = searchStart files path := by
  cases hfile : files.isFile path with
  | false => rw [searchStart_of_not_isFile hfile, searchStart_of_not_isFile hfile]
  | true =>
    have hstart : searchStart files path = path.parent?.getD path := if_pos hfile
    rcases path.names.eq_nil_or_concat with hnames | ⟨above, name, hnames⟩
    · have hself : path.parent?.getD path = path := by rw [Path.parent?, hnames]; rfl
      rw [hstart, hself, hstart, hself]
    · have hparent : path.parent?.getD path = ⟨path.anchored, above⟩ := by
        rw [Path.parent?, hnames]
        simp
      have hchild : (⟨path.anchored, above⟩ : Path).child name = path := by
        rw [Path.child, ← List.concat_eq_append, ← hnames]
      rw [hstart, hparent]
      exact searchStart_of_not_isFile (not_isFile_of_child (hchild ▸ FileSystem.isSome_of_isFile hfile))

lemma searchStart_rootAbove (files : FileSystem) (path : Path) :
    searchStart files (rootAbove files (searchStart files path)) =
      rootAbove files (searchStart files path) := by
  rcases (isRoot_rootAbove files (searchStart files path)).cases with hstart | ⟨marker, hmarker⟩
  · rw [hstart, searchStart_searchStart]
  · exact searchStart_of_not_isFile (not_isFile_of_child hmarker)

lemma findProjectRoot_findProjectRoot (files : FileSystem) (path : Path) :
    findProjectRoot files (findProjectRoot files path) = findProjectRoot files path := by
  rw [findProjectRoot_eq files path, findProjectRoot_eq, searchStart_rootAbove, rootAbove_rootAbove]

lemma findProjectRoot_mem_ancestors (files : FileSystem) (path : Path) :
    findProjectRoot files path ∈ path.ancestors :=
  Path.ancestors_subset (searchStart_mem_ancestors files path)
    (isRoot_rootAbove files (searchStart files path)).mem_ancestors

lemma startsWith_findProjectRoot (files : FileSystem) (path : Path) :
    path.startsWith (findProjectRoot files path) = true :=
  Path.startsWith_of_mem_ancestors (findProjectRoot_mem_ancestors files path)

end

end Walk

end ScriptSurvey
