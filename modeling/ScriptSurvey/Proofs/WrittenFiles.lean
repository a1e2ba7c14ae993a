import Mathlib.Tactic.Common
import ScriptSurvey.Proofs.Directories

/-!
# What writing leaves alone

Making directories changes no file, whether all of them are made or an obstacle ends it. Writing a file
into a directory changes this file and no other.
-/
namespace ScriptSurvey

/-! ## Files in a tree -/

namespace Entry

def content? : Entry → Option File
  | file content => some content
  | dir .. => none

def held (entry : Entry) : Option File × List RawRecord := (entry.content?, entry.rawRecords)

def heldAt (entry : Entry) (names : List String) : Option File × List RawRecord :=
  ((entry.descend? names).map held).getD (none, [])

section

variable {entry target value : Entry} {name first : String} {names rest other : List String}

lemma heldAt_cons (entry : Entry) (first : String) (rest : List String) :
    entry.heldAt (first :: rest) = ((entry.child? first).map (·.heldAt rest)).getD (none, []) := by
  rw [heldAt, descend?]
  cases entry.child? first <;> rfl

lemma held_setChild (h : entry.isDir = true) :
    (entry.setChild name (some value)).held = entry.held := by
  obtain ⟨entries, rawRecords, rfl⟩ := isDir_iff.mp h
  rfl

lemma heldAt_of_isFile (h : entry.isDir = false) (hrest : rest ≠ []) :
    entry.heldAt rest = (none, []) := by
  cases entry with
  | dir entries rawRecords => simp [isDir] at h
  | file content =>
    cases rest with
    | nil => exact absurd rfl hrest
    | cons first rest => rfl

lemma heldAt_setChild (hdir : entry.isDir = true)
    (hold : ∀ e, entry.child? name = some e → e.isDir = false)
    (hleaf : ∀ rest, rest ≠ [] → value.heldAt rest = (none, [])) (hother : other ≠ [name]) :
    (entry.setChild name (some value)).heldAt other = entry.heldAt other := by
  cases other with
  | nil => exact held_setChild hdir
  | cons first rest =>
    rw [heldAt_cons, heldAt_cons]
    by_cases hfirst : first = name
    · subst hfirst
      have hrest : rest ≠ [] := by simpa using hother
      rw [child?_setChild_self, Option.map_some, Option.getD_some, hleaf rest hrest]
      cases hchild : entry.child? first with
      | none => rfl
      | some e => rw [Option.map_some, Option.getD_some, heldAt_of_isFile (hold e hchild) hrest]
    · rw [child?_setChild_of_ne hfirst]

lemma heldAt_update (hdir : entry.descend? names = some target) (htarget : target.isDir = true)
    (hold : ∀ e, target.child? name = some e → e.isDir = false)
    (hleaf : ∀ rest, rest ≠ [] → value.heldAt rest = (none, [])) (hother : other ≠ names ++ [name]) :
    (entry.update (names ++ [name]) (some value)).heldAt other = entry.heldAt other := by
  induction names generalizing entry other with
  | nil =>
    obtain rfl := Option.some.inj hdir
    exact heldAt_setChild htarget hold hleaf hother
  | cons next names ih =>
    obtain ⟨child, hchild, hrest⟩ := Option.bind_eq_some_iff.mp hdir
    rw [List.cons_append, update_cons hchild (by simp)]
    cases other with
    | nil => exact held_setChild (isDir_of_child? hchild)
    | cons first rest =>
      rw [heldAt_cons, heldAt_cons]
      by_cases hfirst : first = next
      · subst hfirst
        have hne : rest ≠ names ++ [name] := by simpa using hother
        rw [child?_setChild_self, hchild, Option.map_some, Option.map_some, ih hrest hne]
      · rw [child?_setChild_of_ne hfirst]

end

end Entry

namespace FileSystem

section

variable {files made : FileSystem} {at_ pieces reached : List String} {piece text name : String}
  {directory path : Path}

lemma heldAt_root (files : FileSystem) (path : Path) :
    files.root.heldAt path.names = (files.file? path, files.rawRecords path) := by
  rw [file?, rawRecords, descend?_names, Entry.heldAt]
  cases files.root.descend? path.names with
  | none => rfl
  | some e => cases e <;> rfl

lemma readText?_child (h : files.canonical? text = some directory) (name : String) :
    files.readText? (directory.child name) = ((files.entriesAt text).lookup name).bind fun entry =>
      entry.content?.bind File.text? := by
  rw [readText?, file?, Path.child, entriesAt, h, Option.bind_some, descend?_names, descend?_names,
    Entry.descend?_concat]
  cases files.root.descend? directory.names with
  | none => rfl
  | some target =>
    rw [Option.bind_some, Option.map_some, Option.getD_some, Entry.lookup_entries]
    cases target.child? name with
    | none => rfl
    | some e => cases e <;> rfl

/-- Every file is as it was, a raw record too, and there is no new one. -/
def SameFiles (files after : FileSystem) : Prop :=
  ∀ path, after.file? path = files.file? path ∧ after.rawRecords path = files.rawRecords path

lemma SameFiles.refl (files : FileSystem) : files.SameFiles files := fun _ => ⟨rfl, rfl⟩

lemma SameFiles.trans {a b c : FileSystem} (hab : a.SameFiles b) (hbc : b.SameFiles c) :
    a.SameFiles c :=
  fun path => ⟨(hbc path).1.trans (hab path).1, (hbc path).2.trans (hab path).2⟩

lemma same_of_heldAt {after : FileSystem}
    (h : after.root.heldAt path.names = files.root.heldAt path.names) :
    after.file? path = files.file? path ∧ after.rawRecords path = files.rawRecords path := by
  rw [heldAt_root, heldAt_root] at h
  exact Prod.mk.inj h

/-! ## Making directories -/

lemma sameFiles_makeDir (hdir : files.isDir ⟨true, at_⟩ = true) (piece : String) :
    files.SameFiles (files.makeDir ⟨true, step at_ piece⟩) := by
  cases hthere : (files.entry? ⟨true, step at_ piece⟩).isSome with
  | true =>
    rw [makeDir_of_isSome hthere]
    exact .refl files
  | false =>
    intro path
    obtain ⟨hname, target, htarget, htargetDir, hnone⟩ := step_of_missing hdir hthere
    obtain ⟨-, hnew⟩ := makeDir_of_missing hdir hthere
    refine same_of_heldAt ?_
    by_cases hpath : path.names = step at_ piece
    · have hold : files.root.descend? (step at_ piece) = none := by
        rwa [Option.isSome_eq_false_iff, Option.isNone_iff_eq_none] at hthere
      rw [hpath, Entry.heldAt, Entry.heldAt, hnew, hold]
      rfl
    · have hleaf : ∀ rest, rest ≠ [] → (Entry.dir []).heldAt rest = (none, []) := by
        intro rest hrest
        cases rest with
        | nil => exact absurd rfl hrest
        | cons first rest => rfl
      rw [hname] at hpath hthere ⊢
      rw [makeDir, if_neg (by simp [hthere])]
      exact Entry.heldAt_update htarget htargetDir (by simp [hnone]) hleaf hpath

lemma makeUntilBlocked_cons (piece : String) : files.makeUntilBlocked at_ (piece :: pieces) =
    if files.isDir ⟨true, at_⟩ then
      (files.makeDir ⟨true, step at_ piece⟩).makeUntilBlocked (step at_ piece) pieces
    else files := by
  rw [makeUntilBlocked]
  by_cases hdir : files.isDir ⟨true, at_⟩ = true
  · have hthere := isSome_of_isDir hdir
    have habove := isSome_dropLast hthere
    simp only [hdir, Bool.not_true, Bool.false_eq_true, if_false, if_true, step]
    split_ifs with hsame hup
    · rw [makeDir_of_isSome hthere]
    · rw [makeDir_of_isSome habove]
    · rfl
  · simp [hdir]

/-- Making directories changes no file, however far it comes. -/
lemma sameFiles_makeUntilBlocked (files : FileSystem) (at_ pieces : List String) :
    files.SameFiles (files.makeUntilBlocked at_ pieces) := by
  induction pieces generalizing files at_ with
  | nil => exact .refl files
  | cons piece rest ih =>
    rw [makeUntilBlocked_cons]
    split_ifs with hdir
    · exact (sameFiles_makeDir hdir piece).trans (ih _ _)
    · exact .refl files

lemma makeUntilBlocked_of_ok (h : files.followMaking at_ pieces = .ok (reached, made)) :
    files.makeUntilBlocked at_ pieces = made := by
  induction pieces generalizing files at_ with
  | nil =>
    rw [followMaking] at h
    split_ifs at h with hdir
    exact (Prod.mk.inj (Except.ok.inj h)).2
  | cons piece rest ih =>
    rw [followMaking_cons] at h
    split_ifs at h with hdir
    rw [makeUntilBlocked_cons, if_pos hdir]
    exact ih h

lemma sameFiles_makeDirs (h : files.makeDirs text = .ok (directory, made)) : files.SameFiles made := by
  obtain ⟨names, rfl, hnames⟩ := makeDirs_eq_ok_iff.mp h
  rw [← makeUntilBlocked_of_ok hnames]
  exact sameFiles_makeUntilBlocked files _ _

/-! ## Writing a file -/

lemma file?_write_self (content : File) (hdir : files.isDir directory = true) :
    (files.write (directory.child name) content).file? (directory.child name) = some content := by
  obtain ⟨target, htarget, -⟩ := isDir_iff.mp hdir
  rw [file?, descend?_names, write, Path.child, Entry.descend?_concat,
    Entry.descend?_update name (.file content) htarget, Option.bind_some,
    Entry.child?_setChild_self]

lemma isDir_of_isFile_child (h : files.isFile (directory.child name) = true) :
    files.isDir directory = true ∧ files.isDir (directory.child name) = false := by
  refine ⟨isDir_of_child (isSome_of_isFile h), Bool.eq_false_iff.mpr fun hdir => ?_⟩
  rw [not_isFile_of_isDir hdir] at h
  cases h

lemma heldAt_write_of_ne (content : File) (hdir : files.isDir directory = true)
    (hfree : files.isDir (directory.child name) = false)
    (hpath : path.names ≠ (directory.child name).names) :
    (files.write (directory.child name) content).root.heldAt path.names =
      files.root.heldAt path.names := by
  obtain ⟨target, htarget, htargetDir⟩ := isDir_iff.mp hdir
  exact Entry.heldAt_update htarget htargetDir (fun _ => isFile_of_child? hfree htarget)
    (fun _ hrest => Entry.heldAt_of_isFile rfl hrest) hpath

lemma file?_write_of_ne (content : File) (hdir : files.isDir directory = true)
    (hfree : files.isDir (directory.child name) = false)
    (hpath : path.names ≠ (directory.child name).names) :
    (files.write (directory.child name) content).file? path = files.file? path :=
  (same_of_heldAt (heldAt_write_of_ne content hdir hfree hpath)).1

lemma rawRecords_of_not_isDir (h : files.isDir path = false) : files.rawRecords path = [] := by
  rw [isDir] at h
  rw [rawRecords]
  cases hentry : files.entry? path with
  | none => rfl
  | some e =>
    cases e with
    | file content => rfl
    | dir entries rawRecords => simp [hentry, Entry.isDir] at h

lemma rawRecords_write (content : File) (hdir : files.isDir directory = true)
    (hfree : files.isDir (directory.child name) = false) (path : Path) :
    (files.write (directory.child name) content).rawRecords path = files.rawRecords path := by
  by_cases hpath : path.names = (directory.child name).names
  · have hafter : (files.write (directory.child name) content).isDir (directory.child name) = false := by
      refine Bool.eq_false_iff.mpr fun hthere => ?_
      have hfile := not_isFile_of_isDir hthere
      rw [isFile, file?_write_self content hdir] at hfile
      cases hfile
    have hsame : ∀ f : FileSystem, f.rawRecords path = f.rawRecords (directory.child name) := fun f => by
      rw [rawRecords, rawRecords, descend?_names, descend?_names, hpath]
    rw [hsame, hsame, rawRecords_of_not_isDir hafter, rawRecords_of_not_isDir hfree]
  · exact (same_of_heldAt (heldAt_write_of_ne content hdir hfree hpath)).2

end

end FileSystem

end ScriptSurvey
