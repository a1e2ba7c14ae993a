import ScriptSurvey.Proofs.NormalPaths
import ScriptSurvey.Proofs.ProjectRoots

/-!
# Canonical paths

A path text is followed to a path of plain names that are there. Written out, this path leads to
itself, and so do the paths above it, such as the root of its project.
-/
namespace ScriptSurvey

namespace FileSystem

/-- A piece of a path text that names an entry of a directory. -/
structure IsName (name : String) : Prop where
  notEmpty : name ≠ ""
  notSame : name ≠ "."
  notUp : name ≠ ".."
  noSeparator : '/' ∉ name.toList

section

variable {files : FileSystem} {at_ pieces names : List String} {text : String} {path : Path}

lemma IsName.step {name : String} (h : IsName name) : FileSystem.step at_ name = at_ ++ [name] := by
  simp [FileSystem.step, h.notEmpty, h.notSame, h.notUp]

lemma isName_of_mem_step {piece : String} (hpiece : '/' ∉ piece.toList)
    (hat : ∀ n ∈ at_, IsName n) : ∀ n ∈ step at_ piece, IsName n := by
  intro n hn
  rw [step] at hn
  split_ifs at hn with hsame hup
  · exact hat n hn
  · exact hat n (List.dropLast_subset _ hn)
  · rcases List.mem_append.mp hn with hn | hn
    · exact hat n hn
    · obtain rfl := List.mem_singleton.mp hn
      simp only [Bool.or_eq_true, decide_eq_true_eq, not_or] at hsame
      exact ⟨hsame.1, hsame.2, hup, hpiece⟩

/-- What a path text leads to is a sequence of names that is there. -/
lemma names_of_follow (hpieces : ∀ p ∈ pieces, '/' ∉ p.toList) (hat : ∀ n ∈ at_, IsName n)
    (hthere : (files.entry? ⟨true, at_⟩).isSome = true)
    (h : files.follow at_ pieces = some names) :
    (∀ n ∈ names, IsName n) ∧ (files.entry? ⟨true, names⟩).isSome = true := by
  induction pieces generalizing at_ with
  | nil =>
    obtain rfl := Option.some.inj h
    exact ⟨hat, hthere⟩
  | cons piece rest ih =>
    rw [follow_cons] at h
    obtain ⟨hnext, hrest⟩ := Option.ite_none_right_eq_some.mp h
    exact ih (fun p hp => hpieces p (List.mem_cons_of_mem _ hp))
      (isName_of_mem_step (hpieces piece (List.mem_cons_self ..)) hat)
      (Bool.and_eq_true_iff.mp hnext).2 hrest

lemma follow_names (hnames : ∀ n ∈ names, IsName n)
    (hthere : (files.entry? ⟨true, at_ ++ names⟩).isSome = true) :
    files.follow at_ names = some (at_ ++ names) := by
  induction names generalizing at_ with
  | nil => rw [List.append_nil]; rfl
  | cons name rest ih =>
    have hassoc : at_ ++ name :: rest = (at_ ++ [name]) ++ rest := by simp
    have hnext : (files.entry? ⟨true, at_ ++ [name]⟩).isSome = true := by
      rw [descend?_names, hassoc, Entry.descend?_append] at hthere
      exact Option.isSome_of_isSome_bind hthere
    have hdir : files.isDir ⟨true, at_⟩ = true := isDir_of_child hnext
    rw [hassoc] at hthere ⊢
    rw [follow_cons, (hnames name (List.mem_cons_self ..)).step, hdir, hnext]
    exact ih (fun n hn => hnames n (List.mem_cons_of_mem _ hn)) hthere

lemma isDir_of_follow (hne : pieces ≠ []) (h : files.follow at_ pieces = some names) :
    files.isDir ⟨true, at_⟩ = true := by
  obtain ⟨piece, rest, rfl⟩ := List.exists_cons_of_ne_nil hne
  rw [follow_cons] at h
  exact (Bool.and_eq_true_iff.mp (Option.ite_none_right_eq_some.mp h).1).1

lemma follow_empty (hdir : files.isDir ⟨true, at_⟩ = true) :
    files.follow at_ ("" :: pieces) = files.follow at_ pieces := by
  rw [follow, hdir]
  rfl

lemma canonical?_names (hroot : files.isDir ⟨true, []⟩ = true) (hnames : ∀ n ∈ names, IsName n)
    (hthere : (files.entry? ⟨true, names⟩).isSome = true) :
    files.canonical? (Path.toString ⟨true, names⟩) = some ⟨true, names⟩ := by
  rw [canonical?, Path.split_toString fun n hn => (hnames n hn).noSeparator, follow_empty hroot]
  split_ifs with hempty
  · rw [follow_empty hroot, hempty]
    rfl
  · rw [follow_names hnames hthere]
    rfl

/-- A path that a text leads to, and all paths above it, lead to themselves. -/
lemma canonical?_ancestor (h : files.canonical? text = some path) {above : Path}
    (habove : above ∈ path.ancestors) : files.canonical? above.toString = some above := by
  obtain ⟨names, hnames, rfl⟩ := Option.map_eq_some_iff.mp h
  obtain ⟨hplain, hthere⟩ := names_of_follow (fun p hp => Text.not_mem_of_mem_split hp)
    (fun n hn => absurd hn List.not_mem_nil) rfl hnames
  obtain ⟨hanchored, rest, hrest⟩ := Path.mem_ancestors_iff.mp habove
  obtain ⟨anchored, front⟩ := above
  obtain rfl : anchored = true := hanchored
  obtain rfl : front ++ rest = names := hrest
  refine canonical?_names (isDir_of_follow (Text.split_ne_nil text '/') hnames)
    (fun n hn => hplain n (List.mem_append_left _ hn)) ?_
  rw [descend?_names, Entry.descend?_append] at hthere
  exact Option.isSome_of_isSome_bind hthere

lemma canonical?_toString (h : files.canonical? text = some path) :
    files.canonical? path.toString = some path :=
  canonical?_ancestor h path.self_mem_ancestors

end

end FileSystem

namespace Walk

variable {files : FileSystem} {path : Path} {text : String}

lemma canonical?_findProjectRoot (h : files.canonical? text = some path) :
    files.canonical? (findProjectRoot files path).toString = some (findProjectRoot files path) :=
  FileSystem.canonical?_ancestor h (findProjectRoot_mem_ancestors files path)

end Walk

end ScriptSurvey
