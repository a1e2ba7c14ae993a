import Mathlib.Data.List.Induction
import Mathlib.Tactic.Common
import ScriptSurvey.FileSystem

/-!
# Making directories and writing into them

Making what is missing of a directory, and writing a file into it, keep every path: what was there is
still there, and a directory stays one. So the same path text leads to the same place afterwards, and
the directory holds what it held and the file.
-/
namespace ScriptSurvey

namespace Entry

/-- Every path is still there, and leads to a directory when it did. -/
def Kept (before after : Entry) : Prop :=
  ∀ names e, before.descend? names = some e →
    ∃ e', after.descend? names = some e' ∧ (e.isDir = true → e'.isDir = true)

section

variable {entry inner value : Entry} {name other : String} {names : List String}

lemma Kept.refl (entry : Entry) : entry.Kept entry := fun _ e h => ⟨e, h, id⟩

lemma Kept.trans {a b c : Entry} (hab : a.Kept b) (hbc : b.Kept c) : a.Kept c := by
  intro names e he
  obtain ⟨e', he', hdir⟩ := hab names e he
  obtain ⟨e'', he'', hdir'⟩ := hbc names e' he'
  exact ⟨e'', he'', hdir' ∘ hdir⟩

lemma isDir_iff : entry.isDir = true ↔ ∃ entries rawRecords, entry = dir entries rawRecords := by
  cases entry <;> simp [isDir]

lemma isDir_of_child? (h : entry.child? name = some value) : entry.isDir = true := by
  cases entry with
  | dir entries rawRecords => rfl
  | file content => simp [child?] at h

lemma descend?_append (names more : List String) :
    entry.descend? (names ++ more) = (entry.descend? names).bind (·.descend? more) := by
  induction names generalizing entry with
  | nil => rfl
  | cons name rest ih =>
    rw [List.cons_append, descend?, descend?, Option.bind_assoc]
    exact congrArg _ (funext fun e => ih)

lemma descend?_concat (names : List String) (name : String) :
    entry.descend? (names ++ [name]) = (entry.descend? names).bind (·.child? name) := by
  rw [descend?_append]
  refine congrArg _ (funext fun e => ?_)
  rw [descend?]
  cases e.child? name <;> rfl

lemma lookup_filter (p : String → Bool) (entries : List (String × Entry)) (name : String) :
    (entries.filter fun e => p e.1).lookup name = if p name then entries.lookup name else none := by
  induction entries with
  | nil => simp
  | cons e rest ih =>
    by_cases he : name = e.1
    · subst he
      by_cases hp : p e.1 = true
      · rw [List.filter_cons, if_pos hp, if_pos hp, List.lookup_cons_self, List.lookup_cons_self]
      · rw [List.filter_cons, if_neg hp, ih, if_neg hp, if_neg hp]
    · have hother : (name == e.1) = false := beq_false_of_ne he
      rw [List.lookup_cons, hother, ← ih, List.filter_cons]
      by_cases hp : p e.1 = true
      · rw [if_pos hp, List.lookup_cons, hother]
      · rw [if_neg hp]

lemma child?_dir (entries : List (String × Entry)) (rawRecords : List RawRecord) :
    (dir entries rawRecords).child? name = entries.lookup name := rfl

lemma lookup_entries (entry : Entry) (name : String) :
    entry.entries.lookup name = entry.child? name := by
  cases entry <;> rfl

@[simp] lemma isDir_setChild : (entry.setChild name (some value)).isDir = true := rfl

@[simp] lemma child?_setChild_self : (entry.setChild name (some value)).child? name = some value := by
  rw [setChild, child?_dir, List.lookup_append, lookup_filter (· != name), if_neg (by simp),
    Option.none_or, List.lookup_cons_self]

lemma child?_setChild_of_ne (h : other ≠ name) :
    (entry.setChild name (some value)).child? other = entry.child? other := by
  have hnew : [(name, value)].lookup other = none := by
    rw [List.lookup_eq_none_iff]
    simpa using h
  rw [setChild, child?_dir, List.lookup_append, lookup_filter (· != name), if_pos (bne_iff_ne.mpr h),
    hnew, Option.or_none, lookup_entries]

/-- Setting a child keeps every path when the child that was there is no directory, or the new one
keeps its paths. -/
lemma kept_setChild (hold : ∀ e, entry.child? name = some e → e.isDir = false ∨ e.Kept value) :
    entry.Kept (entry.setChild name (some value)) := by
  intro names e he
  cases names with
  | nil => exact ⟨_, rfl, fun _ => isDir_setChild⟩
  | cons first rest =>
    rw [descend?] at he ⊢
    obtain ⟨child, hchild, hrest⟩ := Option.bind_eq_some_iff.mp he
    by_cases hfirst : first = name
    · subst hfirst
      rw [child?_setChild_self, Option.bind_some]
      rcases hold child hchild with hfile | hkept
      · cases rest with
        | nil =>
          obtain rfl := Option.some.inj hrest
          exact ⟨value, rfl, fun h => by simp [hfile] at h⟩
        | cons next rest =>
          cases child with
          | dir entries rawRecords => simp [isDir] at hfile
          | file content => simp [descend?, child?] at hrest
      · exact hkept rest e hrest
    · rw [child?_setChild_of_ne hfirst, hchild, Option.bind_some]
      exact ⟨e, hrest, id⟩

lemma update_cons (hchild : entry.child? name = some inner) (hne : names ≠ []) :
    entry.update (name :: names) (some value) =
      entry.setChild name (some (inner.update names (some value))) := by
  match names with
  | next :: rest =>
    rw [update, hchild]
    · rfl
    · exact hne
    · simp

/-- Setting an entry below a directory sets it as a child there. -/
lemma descend?_update {target : Entry} (name : String) (value : Entry)
    (hdir : entry.descend? names = some target) :
    (entry.update (names ++ [name]) (some value)).descend? names =
      some (target.setChild name (some value)) := by
  induction names generalizing entry with
  | nil =>
    obtain rfl := Option.some.inj hdir
    rfl
  | cons first rest ih =>
    obtain ⟨child, hchild, hrest⟩ := Option.bind_eq_some_iff.mp hdir
    rw [List.cons_append, update_cons hchild (by simp), descend?, child?_setChild_self,
      Option.bind_some, ih hrest]

/-- Where no directory is replaced, every path is kept. -/
lemma kept_update {target : Entry} (name : String) (value : Entry)
    (hdir : entry.descend? names = some target)
    (hold : ∀ e, target.child? name = some e → e.isDir = false) :
    entry.Kept (entry.update (names ++ [name]) (some value)) := by
  induction names generalizing entry with
  | nil =>
    obtain rfl := Option.some.inj hdir
    exact kept_setChild fun e he => Or.inl (hold e he)
  | cons first rest ih =>
    obtain ⟨child, hchild, hrest⟩ := Option.bind_eq_some_iff.mp hdir
    rw [List.cons_append, update_cons hchild (by simp)]
    refine kept_setChild fun e he => Or.inr ?_
    obtain rfl := Option.some.inj (hchild.symm.trans he)
    exact ih hrest

end

end Entry

namespace FileSystem

section

variable {files made : FileSystem} {at_ pieces reached : List String}

lemma descend?_names (files : FileSystem) (path : Path) :
    files.entry? path = files.root.descend? path.names := rfl

lemma isDir_iff {path : Path} :
    files.isDir path = true ↔ ∃ e, files.root.descend? path.names = some e ∧ e.isDir = true := by
  rw [isDir, descend?_names]
  cases files.root.descend? path.names <;> simp

lemma not_isFile_of_isDir {path : Path} (h : files.isDir path = true) : files.isFile path = false := by
  obtain ⟨e, he, hdir⟩ := isDir_iff.mp h
  obtain ⟨entries, rawRecords, rfl⟩ := Entry.isDir_iff.mp hdir
  rw [isFile, file?, descend?_names, he]
  rfl

lemma isSome_of_isFile {path : Path} (h : files.isFile path = true) :
    (files.entry? path).isSome = true := by
  rw [isFile, file?] at h
  cases hentry : files.entry? path with
  | none => rw [hentry] at h; cases h
  | some entry => rfl

lemma isDir_of_child {path : Path} {name : String}
    (h : (files.entry? (path.child name)).isSome = true) : files.isDir path = true := by
  obtain ⟨child, hchild⟩ := Option.isSome_iff_exists.mp h
  rw [descend?_names, Path.child, Entry.descend?_concat] at hchild
  obtain ⟨e, he, hbelow⟩ := Option.bind_eq_some_iff.mp hchild
  exact isDir_iff.mpr ⟨e, he, Entry.isDir_of_child? hbelow⟩

lemma Kept.isDir {path : Path} (h : files.root.Kept made.root) (hdir : files.isDir path = true) :
    made.isDir path = true := by
  obtain ⟨e, he, hdir⟩ := isDir_iff.mp hdir
  obtain ⟨e', he', hkept⟩ := h _ _ he
  exact isDir_iff.mpr ⟨e', he', hkept hdir⟩

lemma Kept.isSome {path : Path} (h : files.root.Kept made.root)
    (hsome : (files.entry? path).isSome = true) : (made.entry? path).isSome = true := by
  obtain ⟨e, he⟩ := Option.isSome_iff_exists.mp hsome
  obtain ⟨e', he', -⟩ := h _ _ he
  exact Option.isSome_iff_exists.mpr ⟨e', he'⟩

def step (at_ : List String) (piece : String) : List String :=
  if piece = "" || piece = "." then at_ else if piece = ".." then at_.dropLast else at_ ++ [piece]

lemma isSome_of_isDir {path : Path} (h : files.isDir path = true) :
    (files.entry? path).isSome = true := by
  obtain ⟨e, he, -⟩ := isDir_iff.mp h
  exact Option.isSome_iff_exists.mpr ⟨e, he⟩

lemma isSome_dropLast (h : (files.entry? ⟨true, at_⟩).isSome = true) :
    (files.entry? ⟨true, at_.dropLast⟩).isSome = true := by
  induction at_ using List.reverseRecOn with
  | nil => exact h
  | append_singleton names name =>
    rw [List.dropLast_concat]
    rw [descend?_names, Entry.descend?_concat] at h
    exact Option.isSome_of_isSome_bind h

lemma follow_cons (piece : String) : files.follow at_ (piece :: pieces) =
    if files.isDir ⟨true, at_⟩ && (files.entry? ⟨true, step at_ piece⟩).isSome then
      files.follow (step at_ piece) pieces
    else none := by
  rw [follow]
  by_cases hdir : files.isDir ⟨true, at_⟩ = true
  · have hthere := isSome_of_isDir hdir
    simp only [hdir, Bool.not_true, Bool.false_eq_true, if_false, Bool.true_and, step]
    split_ifs with hsame hup <;> simp_all [isSome_dropLast]
  · simp [hdir]

lemma makeDir_of_isSome {path : Path} (h : (files.entry? path).isSome = true) :
    files.makeDir path = files := by
  rw [makeDir, if_pos h]

lemma followMaking_cons (piece : String) : files.followMaking at_ (piece :: pieces) =
    if files.isDir ⟨true, at_⟩ then
      (files.makeDir ⟨true, step at_ piece⟩).followMaking (step at_ piece) pieces
    else .error .fileAbove := by
  rw [followMaking]
  by_cases hdir : files.isDir ⟨true, at_⟩ = true
  · have hthere := isSome_of_isDir hdir
    have habove := isSome_dropLast hthere
    simp only [hdir, Bool.not_true, Bool.false_eq_true, if_false, if_true, step]
    split_ifs with hsame hup
    · rw [makeDir_of_isSome hthere]
    · rw [makeDir_of_isSome habove]
    · rfl
  · simp [hdir]

/-- A path text leads to the same place when every path is kept. -/
lemma follow_kept (h : files.root.Kept made.root) (hreached : files.follow at_ pieces = some reached) :
    made.follow at_ pieces = some reached := by
  induction pieces generalizing at_ with
  | nil => exact hreached
  | cons piece rest ih =>
    rw [follow_cons] at hreached ⊢
    obtain ⟨hthere, hrest⟩ := Option.ite_none_right_eq_some.mp hreached
    obtain ⟨hdir, hnext⟩ := Bool.and_eq_true_iff.mp hthere
    rw [Kept.isDir h hdir, Kept.isSome h hnext]
    exact ih hrest

/-- Only a name can be missing below a directory, and it is missing among the children. -/
lemma step_of_missing {piece : String} (hdir : files.isDir ⟨true, at_⟩ = true)
    (hmissing : (files.entry? ⟨true, step at_ piece⟩).isSome = false) :
    step at_ piece = at_ ++ [piece] ∧ ∃ target, files.root.descend? at_ = some target ∧
      target.isDir = true ∧ target.child? piece = none := by
  have hname : step at_ piece = at_ ++ [piece] := by
    rw [step] at hmissing ⊢
    split_ifs at hmissing ⊢
    · simp [isSome_of_isDir hdir] at hmissing
    · simp [isSome_dropLast (isSome_of_isDir hdir)] at hmissing
    · rfl
  obtain ⟨target, htarget, htargetDir⟩ := isDir_iff.mp hdir
  refine ⟨hname, target, htarget, htargetDir, ?_⟩
  rwa [hname, Option.isSome_eq_false_iff, Option.isNone_iff_eq_none, descend?_names,
    Entry.descend?_concat, htarget, Option.bind_some] at hmissing

/-- What is missing below a directory is made as an empty one, and every path is kept. -/
lemma makeDir_of_missing {piece : String} (hdir : files.isDir ⟨true, at_⟩ = true)
    (hmissing : (files.entry? ⟨true, step at_ piece⟩).isSome = false) :
    files.root.Kept (files.makeDir ⟨true, step at_ piece⟩).root ∧
      (files.makeDir ⟨true, step at_ piece⟩).root.descend? (step at_ piece) = some (.dir []) := by
  obtain ⟨hname, target, htarget, -, hnone⟩ := step_of_missing hdir hmissing
  rw [hname] at hmissing ⊢
  have hkept := Entry.kept_update piece (.dir []) htarget (by simp [hnone])
  have hset := Entry.descend?_update piece (.dir []) htarget
  rw [makeDir, if_neg (by simp [hmissing])]
  refine ⟨hkept, ?_⟩
  rw [Entry.descend?_concat, hset, Option.bind_some, Entry.child?_setChild_self]

/-- Making the place where a piece leads keeps every path, and the place is there. -/
lemma makeDir_step (hdir : files.isDir ⟨true, at_⟩ = true) (piece : String) :
    files.root.Kept (files.makeDir ⟨true, step at_ piece⟩).root ∧
      (FileSystem.entry? (files.makeDir ⟨true, step at_ piece⟩) ⟨true, step at_ piece⟩).isSome = true := by
  cases hthere : (files.entry? ⟨true, step at_ piece⟩).isSome with
  | true =>
    rw [makeDir_of_isSome hthere]
    exact ⟨Entry.Kept.refl _, hthere⟩
  | false =>
    obtain ⟨hkept, hnew⟩ := makeDir_of_missing hdir hthere
    exact ⟨hkept, Option.isSome_iff_exists.mpr ⟨_, hnew⟩⟩

/-- After the directories of a path text are made, it leads to the last of them, and every path is
kept. -/
lemma followMaking_spec (h : files.followMaking at_ pieces = .ok (reached, made)) :
    files.root.Kept made.root ∧ made.follow at_ pieces = some reached ∧
      made.isDir ⟨true, reached⟩ = true := by
  induction pieces generalizing files at_ with
  | nil =>
    rw [followMaking] at h
    split_ifs at h with hdir
    obtain ⟨rfl, rfl⟩ := Prod.mk.inj (Except.ok.inj h)
    exact ⟨Entry.Kept.refl _, rfl, hdir⟩
  | cons piece rest ih =>
    rw [followMaking_cons] at h
    split_ifs at h with hdir
    obtain ⟨hkept, hnext⟩ := makeDir_step hdir piece
    obtain ⟨hkeptRest, hfollow, hlast⟩ := ih h
    refine ⟨hkept.trans hkeptRest, ?_, hlast⟩
    rw [follow_cons, Kept.isDir (hkept.trans hkeptRest) hdir, Kept.isSome hkeptRest hnext]
    exact hfollow

lemma followMaking_of_follow (h : files.follow at_ pieces = some reached) :
    files.followMaking at_ pieces =
      if files.isDir ⟨true, reached⟩ then .ok (reached, files) else .error .fileThere := by
  induction pieces generalizing at_ with
  | nil =>
    obtain rfl := Option.some.inj h
    rfl
  | cons piece rest ih =>
    rw [follow_cons] at h
    obtain ⟨hthere, hrest⟩ := Option.ite_none_right_eq_some.mp h
    obtain ⟨hdir, hnext⟩ := Bool.and_eq_true_iff.mp hthere
    rw [followMaking_cons, if_pos hdir, makeDir_of_isSome hnext]
    exact ih hrest

/-- Below an empty directory everything is made anew. -/
lemma followMaking_of_new (hup : ".." ∉ pieces) (hnew : files.root.descend? at_ = some (.dir []))
    (h : files.followMaking at_ pieces = .ok (reached, made)) :
    made.root.descend? reached = some (.dir []) := by
  induction pieces generalizing files at_ with
  | nil =>
    rw [followMaking] at h
    split_ifs at h with hdir
    obtain ⟨rfl, rfl⟩ := Prod.mk.inj (Except.ok.inj h)
    exact hnew
  | cons piece rest ih =>
    obtain ⟨hpiece, hrest⟩ := not_or.mp (mt List.mem_cons.mpr hup)
    rw [followMaking_cons] at h
    split_ifs at h with hdir
    refine ih hrest ?_ h
    cases hthere : (files.entry? ⟨true, step at_ piece⟩).isSome with
    | true =>
      have hsame : step at_ piece = at_ := by
        rw [step, if_neg (Ne.symm hpiece)] at hthere ⊢
        split_ifs at hthere ⊢
        · rfl
        · rw [descend?_names, Entry.descend?_concat, hnew] at hthere
          cases hthere
      rw [makeDir_of_isSome hthere, hsame]
      exact hnew
    | false => exact (makeDir_of_missing hdir hthere).2

/-- Where a path text without `..` leads nowhere, the directory that is made is empty. -/
lemma followMaking_of_missing (hup : ".." ∉ pieces) (hmissing : files.follow at_ pieces = none)
    (h : files.followMaking at_ pieces = .ok (reached, made)) :
    made.root.descend? reached = some (.dir []) := by
  induction pieces generalizing files at_ with
  | nil => simp [follow] at hmissing
  | cons piece rest ih =>
    obtain ⟨-, hrest⟩ := not_or.mp (mt List.mem_cons.mpr hup)
    rw [followMaking_cons] at h
    split_ifs at h with hdir
    cases hthere : (files.entry? ⟨true, step at_ piece⟩).isSome with
    | true =>
      rw [follow_cons, hdir, hthere] at hmissing
      rw [makeDir_of_isSome hthere] at h
      exact ih hrest hmissing h
    | false => exact followMaking_of_new hrest (makeDir_of_missing hdir hthere).2 h

end

/-! ## The entries of a directory -/

section

variable {files made : FileSystem} {text name : String} {directory : Path}

/-- Making the directory brings no other entries into view. -/
def Settled (files : FileSystem) (text : String) : Prop :=
  ∀ directory made, files.makeDirs text = .ok (directory, made) →
    made.entriesAt text = files.entriesAt text ∧ made.rawRecordsAt text = files.rawRecordsAt text

lemma makeDirs_eq_ok_iff : files.makeDirs text = .ok (directory, made) ↔
    ∃ names, directory = ⟨true, names⟩ ∧
      files.followMaking [] (Text.split text '/') = .ok (names, made) := by
  rw [makeDirs]
  cases files.followMaking [] (Text.split text '/') with
  | error obstacle => simp [Except.map]
  | ok result =>
    obtain ⟨names, after⟩ := result
    simp only [Except.map, Except.ok.injEq, Prod.mk.injEq]
    constructor
    · rintro ⟨rfl, rfl⟩
      exact ⟨names, rfl, rfl, rfl⟩
    · rintro ⟨_, rfl, rfl, rfl⟩
      exact ⟨rfl, rfl⟩

lemma canonical?_makeDirs (h : files.makeDirs text = .ok (directory, made)) :
    made.canonical? text = some directory ∧ made.isDir directory = true := by
  obtain ⟨names, rfl, hnames⟩ := makeDirs_eq_ok_iff.mp h
  obtain ⟨-, hfollow, hdir⟩ := followMaking_spec hnames
  rw [canonical?, hfollow]
  exact ⟨rfl, hdir⟩

lemma entriesAt_eq {entry : Entry} (h : files.canonical? text = some directory)
    (hentry : files.entry? directory = some entry) :
    files.entriesAt text = entry.entries ∧ files.rawRecordsAt text = entry.rawRecords := by
  rw [entriesAt, rawRecordsAt, h, Option.bind_some, Option.map_some, Option.getD_some, rawRecords, hentry]
  exact ⟨rfl, rfl⟩

lemma entriesAt_of_missing (h : files.canonical? text = none) :
    files.entriesAt text = [] ∧ files.rawRecordsAt text = [] := by
  rw [entriesAt, rawRecordsAt, h]
  exact ⟨rfl, rfl⟩

lemma makeDirs_of_canonical (h : files.canonical? text = some directory) :
    files.makeDirs text =
      if files.isDir directory then .ok (directory, files) else .error .fileThere := by
  obtain ⟨names, hnames, rfl⟩ := Option.map_eq_some_iff.mp h
  rw [makeDirs, followMaking_of_follow hnames]
  split_ifs with hdir
  · rfl
  · rfl

lemma settled_of_canonical (h : (files.canonical? text).isSome = true) : files.Settled text := by
  intro directory made hmade
  obtain ⟨place, hplace⟩ := Option.isSome_iff_exists.mp h
  rw [makeDirs_of_canonical hplace] at hmade
  split_ifs at hmade with hdir
  obtain ⟨-, rfl⟩ := Prod.mk.inj (Except.ok.inj hmade)
  exact ⟨rfl, rfl⟩

lemma settled_of_noUp (h : ".." ∉ Text.split text '/') : files.Settled text := by
  cases hthere : files.canonical? text with
  | some path => exact settled_of_canonical (by rw [hthere, Option.isSome_some])
  | none =>
    intro directory made hmade
    obtain ⟨hcanonical, -⟩ := canonical?_makeDirs hmade
    obtain ⟨names, rfl, hnames⟩ := makeDirs_eq_ok_iff.mp hmade
    have hempty := followMaking_of_missing h (Option.map_eq_none_iff.mp hthere) hnames
    obtain ⟨hentries, hraw⟩ := entriesAt_eq hcanonical hempty
    obtain ⟨hnone, hnoRaw⟩ := entriesAt_of_missing hthere
    exact ⟨hentries.trans hnone.symm, hraw.trans hnoRaw.symm⟩

/-- Where no directory stands under a name, there is a file or nothing. -/
lemma isFile_of_child? {target e : Entry} (hfree : files.isDir (directory.child name) = false)
    (htarget : files.root.descend? directory.names = some target)
    (he : target.child? name = some e) : e.isDir = false := by
  have hthere : files.root.descend? (directory.child name).names = some e := by
    rw [Path.child, Entry.descend?_concat, htarget, Option.bind_some, he]
  by_contra hne
  rw [isDir_iff.mpr ⟨e, hthere, Bool.not_eq_false _ ▸ hne⟩] at hfree
  cases hfree

/-- A file that is written into a directory comes behind the other entries. -/
lemma entriesAt_write (content : File) (hcanonical : files.canonical? text = some directory)
    (hdir : files.isDir directory = true) (hfree : files.isDir (directory.child name) = false) :
    (files.write (directory.child name) content).canonical? text = some directory ∧
      (files.write (directory.child name) content).entriesAt text =
        (files.entriesAt text).filter (·.1 != name) ++ [(name, .file content)] ∧
      (files.write (directory.child name) content).rawRecordsAt text = files.rawRecordsAt text := by
  obtain ⟨target, htarget, -⟩ := isDir_iff.mp hdir
  have hfile : ∀ e, target.child? name = some e → e.isDir = false :=
    fun _ => isFile_of_child? hfree htarget
  have hkept := Entry.kept_update name (.file content) htarget hfile
  have hset := Entry.descend?_update name (.file content) htarget
  have hafter : (files.write (directory.child name) content).canonical? text = some directory := by
    obtain ⟨names, hfollow, rfl⟩ := Option.map_eq_some_iff.mp hcanonical
    exact Option.map_eq_some_iff.mpr ⟨names, follow_kept hkept hfollow, rfl⟩
  obtain ⟨hentries, hraw⟩ := entriesAt_eq hafter hset
  obtain ⟨hbefore, hrawBefore⟩ := entriesAt_eq hcanonical htarget
  rw [hentries, hraw, hbefore, hrawBefore]
  exact ⟨hafter, rfl, rfl⟩

end

end FileSystem

end ScriptSurvey
