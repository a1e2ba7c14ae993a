import ScriptSurvey.Proofs.ProjectRoots
import ScriptSurvey.Proofs.WrittenFiles

/-!
# Stable project roots

The root of a directory stays the same when it is looked for again, from the root itself or from a
directory on the way to it. A directory that gets a manifest becomes its own root.
-/
namespace ScriptSurvey

namespace FileSystem

section

variable {files : FileSystem} {path dir : Path}

lemma isDir_of_mem_ancestors (h : files.isDir path = true) (hdir : dir ∈ path.ancestors) :
    files.isDir dir = true := by
  obtain ⟨e, he, hpath⟩ := isDir_iff.mp h
  obtain ⟨-, names, hnames⟩ := Path.mem_ancestors_iff.mp hdir
  rw [← hnames, Entry.descend?_append] at he
  obtain ⟨above, habove, hbelow⟩ := Option.bind_eq_some_iff.mp he
  refine isDir_iff.mpr ⟨above, habove, ?_⟩
  cases names with
  | nil =>
    obtain rfl := Option.some.inj hbelow
    exact hpath
  | cons name rest =>
    obtain ⟨child, hchild, -⟩ := Option.bind_eq_some_iff.mp hbelow
    exact Entry.isDir_of_child? hchild

end

end FileSystem

namespace Walk

section

variable {files : FileSystem} {path dir root : Path} {marker : String}

lemma isRoot_findProjectRoot (h : files.isFile path = false) :
    IsRoot files path (findProjectRoot files path) := by
  rw [findProjectRoot_eq, searchStart_of_not_isFile h]
  exact isRoot_rootAbove files path

lemma IsRoot.findProjectRoot_eq (h : IsRoot files path root) (hpath : files.isFile path = false) :
    findProjectRoot files path = root := by
  rw [Walk.findProjectRoot_eq, searchStart_of_not_isFile hpath, h.rootAbove_eq]

lemma isNearest_self (h : hasMarker files marker path = true) : IsNearest files marker path path :=
  ⟨path.self_mem_ancestors, h, fun _ hdir _ => hdir⟩

lemma hasMarker_write (content : File) (h : files.isDir path = true) :
    hasMarker (files.write (path.child marker) content) marker path = true := by
  refine FileSystem.isSome_of_isFile ?_
  rw [FileSystem.isFile, FileSystem.file?_write_self content h]
  rfl

end

/-- The root of a directory is the directory or one above it: the nearest with a manifest, the nearest
repository only where no manifest is above, and the directory itself only where there is neither. The
root is its own root, and the root of every directory on the way to it. A directory becomes its own
root when a manifest is written into it. -/
theorem findProjectRoot_stable (files : FileSystem) (path : Path) (h : files.isDir path = true) :
    let root := findProjectRoot files path
    root ∈ path.ancestors ∧ IsRoot files path root ∧ findProjectRoot files root = root ∧
    (∀ dir ∈ path.ancestors, root ∈ dir.ancestors → findProjectRoot files dir = root) ∧
    ∀ content, findProjectRoot (files.write (path.child "package.json") content) path = path := by
  intro root
  have hroot : IsRoot files path root := isRoot_findProjectRoot (FileSystem.not_isFile_of_isDir h)
  have hbetween (dir : Path) (hdir : dir ∈ path.ancestors) (hbelow : root ∈ dir.ancestors) :
      findProjectRoot files dir = root :=
    (hroot.between hdir hbelow).findProjectRoot_eq
      (FileSystem.not_isFile_of_isDir (FileSystem.isDir_of_mem_ancestors h hdir))
  refine ⟨hroot.mem_ancestors, hroot, hbetween root hroot.mem_ancestors root.self_mem_ancestors,
    hbetween, fun content => ?_⟩
  have hmarker : hasMarker (files.write (path.child "package.json") content) "package.json" path = true :=
    hasMarker_write content h
  exact (IsRoot.manifest (isNearest_self hmarker)).findProjectRoot_eq (not_isFile_of_child hmarker)

/-- A project that holds a repository, which has no manifest of its own. -/
def submoduleFiles : FileSystem :=
  ⟨.dir [("app", .dir [("package.json", .file (.ofText "\x7b\x7d")),
    ("vendor", .dir [(".git", .dir []), ("lib", .dir [])])])]⟩

/-- The manifest of the project counts, although the repository is nearer. -/
theorem findProjectRoot_stable_submodule :
    let path : Path := ⟨true, ["app", "vendor", "lib"]⟩
    let dir : Path := ⟨true, ["app", "vendor"]⟩
    let root : Path := ⟨true, ["app"]⟩
    submoduleFiles.isDir path = true ∧ hasMarker submoduleFiles ".git" dir = true ∧
      dir ∈ path.ancestors ∧ root ∈ dir.ancestors ∧ findProjectRoot submoduleFiles path = root ∧
      findProjectRoot submoduleFiles dir = root ∧
      findProjectRoot (submoduleFiles.write (path.child "package.json") (.ofText "\x7b\x7d")) path =
        path := by
  intro path dir root
  have hpath : submoduleFiles.isDir path = true := by decide +kernel
  have hdir : dir ∈ path.ancestors := by decide
  have hbelow : root ∈ dir.ancestors := by decide
  have hroot : findProjectRoot submoduleFiles path = root := by decide +kernel
  obtain ⟨-, -, -, hbetween, hwrite⟩ := findProjectRoot_stable submoduleFiles path hpath
  rw [hroot] at hbetween
  exact ⟨hpath, by decide +kernel, hdir, hbelow, hroot, hbetween dir hdir hbelow, hwrite _⟩

end Walk

end ScriptSurvey
