import Mathlib.Data.List.Basic
import Mathlib.Data.List.Find
import ScriptSurvey.Proofs.FileExtensions
import ScriptSurvey.Resolution

/-!
# The file that a specifier means

A relative specifier means the first known file of a fixed list, or is assumed to mean a file when
none is known. So knowing more files can only lead to a better file of the list, and files that are
not on the list have no effect.
-/
namespace ScriptSurvey

/-! ## First known files -/

/-- The file is known, and no better file of the list is. -/
structure FirstKnown (isKnown : Path → Bool) (files : List Path) (p : Path) : Prop where
  listed : p ∈ files
  known : isKnown p = true
  first : ∀ q ∈ files, isKnown q = true → files.idxOf p ≤ files.idxOf q

section

variable {isKnown : Path → Bool} {files : List Path} {p q : Path}

lemma FirstKnown.unique (hp : FirstKnown isKnown files p) (hq : FirstKnown isKnown files q) :
    p = q :=
  (List.idxOf_inj hp.listed).mp <|
    Nat.le_antisymm (hp.first q hq.listed hq.known) (hq.first p hp.listed hp.known)

lemma firstKnown_of_find? (h : files.find? isKnown = some p) : FirstKnown isKnown files p := by
  obtain ⟨hknown, front, back, rfl, hfront⟩ := List.find?_eq_some_iff_append.mp h
  have hunknown : ∀ q ∈ front, ¬ isKnown q = true := by simpa using hfront
  have hp : p ∉ front := fun hmem => hunknown p hmem hknown
  refine ⟨by simp, hknown, fun q _ hq => ?_⟩
  rw [List.idxOf_append_of_notMem hp, List.idxOf_cons_self,
    List.idxOf_append_of_notMem fun hmem => hunknown q hmem hq]
  omega

lemma find?_eq_some_iff_firstKnown : files.find? isKnown = some p ↔ FirstKnown isKnown files p := by
  refine ⟨firstKnown_of_find?, fun h => ?_⟩
  obtain ⟨q, hq⟩ : ∃ q, files.find? isKnown = some q :=
    Option.isSome_iff_exists.mp (List.find?_isSome.mpr ⟨p, h.listed, h.known⟩)
  rw [hq, h.unique (firstKnown_of_find? hq)]

/-- More known files lead to a file that is not behind the one found before. -/
lemma FirstKnown.of_more {more : Path → Bool} (hmore : ∀ q, isKnown q = true → more q = true)
    (h : FirstKnown isKnown files p) :
    ∃ better, FirstKnown more files better ∧ files.idxOf better ≤ files.idxOf p := by
  obtain ⟨better, hbetter⟩ : ∃ better, files.find? more = some better :=
    Option.isSome_iff_exists.mp (List.find?_isSome.mpr ⟨p, h.listed, hmore p h.known⟩)
  have hfirst := firstKnown_of_find? hbetter
  exact ⟨better, hfirst, hfirst.first p h.listed (hmore p h.known)⟩

end

/-! ## Files that a path may stand for -/

namespace Resolution

/-- Extensions of built scripts, with those of the scripts that they are built from. -/
def builtExtensions : List (String × List String) :=
  [("js", ["ts", "tsx"]), ("jsx", ["tsx"]), ("mjs", ["mts"]), ("cjs", ["cts"])]

def scriptExtensions : List String := ["ts", "tsx", "mts", "cts", "js", "jsx", "mjs", "cjs"]

def sourceNames (name : String) : List String :=
  builtExtensions.flatMap fun (built, sources) =>
    (Path.stem? name built).toList.flatMap fun stem => sources.map fun e => stem ++ "." ++ e

/-- The last name of a path, also when this is `..`. -/
def lastName (base : Path) : String := base.names.getLast?.getD ""

def hasScriptExtension (base : Path) : Bool :=
  scriptExtensions.any fun e => (Path.stem? (lastName base) e).isSome

/-- The files that a path may stand for, the best first: the path itself, the scripts from which it
may be built, the path with an extension added, and an index file. -/
def preference (base : Path) : List Path :=
  [base] ++ ((sourceNames (lastName base)).map fun n => ⟨base.anchored, base.names.dropLast ++ [n]⟩)
    ++ (["ts", "tsx", "js", "jsx", "mjs", "cjs"].map base.addExtension)
    ++ (["ts", "tsx", "js", "jsx", "mjs", "cjs"].map fun e => base.child ("index." ++ e))

def assumption (base : Path) (defaultExtension : String) : Path :=
  if hasScriptExtension base then base else base.addExtension defaultExtension

section

variable {base : Path}

lemma extension_eq (base : Path) :
    base.extension?.getD "" = (Path.splitExtension (lastName base)).2.getD "" := by
  rw [Path.extension?, Path.fileName?, lastName]
  cases base.names.getLast? with
  | none => rfl
  | some name =>
    by_cases hnone : name = ".." ∨ name = "."
    · rcases hnone with rfl | rfl <;> decide +kernel
    · simp [hnone]

lemma isScript_ofExtension? (extension : String) :
    ((Language.ofExtension? extension).map Language.isScript).getD false =
      scriptExtensions.contains extension := by
  unfold Language.ofExtension?
  split <;> simp_all [scriptExtensions, Language.isScript]

lemma isScript_eq (base : Path) : base.isScript = hasScriptExtension base := by
  have hdots : ∀ e ∈ scriptExtensions, '.' ∉ e.toList := by decide +kernel
  have hstems : hasScriptExtension base =
      scriptExtensions.any fun e => (Path.splitExtension (lastName base)).2 == some e := by
    rw [Bool.eq_iff_iff, hasScriptExtension, List.any_eq_true, List.any_eq_true]
    refine exists_congr fun e => and_congr_right fun he => ?_
    rw [Path.stem?_eq (hdots e he), Option.isSome_ite, beq_iff_eq]
  rw [Path.isScript, Language.ofPath?, extension_eq, isScript_ofExtension?, hstems]
  cases (Path.splitExtension (lastName base)).2 with
  | none => decide
  | some extension => rw [Option.getD_some, List.contains_eq_any_beq]; rfl

lemma isScript_of_sourceExtensions (h : sourceExtensions (base.extension?.getD "") ≠ []) :
    base.isScript = true := by
  rw [Path.isScript, Language.ofPath?, isScript_ofExtension?]
  unfold sourceExtensions at h
  split at h <;> simp_all [scriptExtensions]

lemma sourceNames_eq (name : String) :
    sourceNames name = (sourceExtensions ((Path.splitExtension name).2.getD "")).map fun e =>
      (Path.splitExtension name).1 ++ "." ++ e := by
  have hdots : ∀ built ∈ builtExtensions, '.' ∉ built.1.toList := by decide +kernel
  have hstems : sourceNames name = builtExtensions.flatMap fun built =>
      if (Path.splitExtension name).2 = some built.1 then
        built.2.map fun e => (Path.splitExtension name).1 ++ "." ++ e
      else [] := by
    refine List.flatMap_congr fun built hbuilt => ?_
    dsimp only
    rw [Path.stem?_eq (hdots built hbuilt)]
    split_ifs <;> simp
  rw [hstems]
  cases (Path.splitExtension name).2 with
  | none => rfl
  | some extension =>
    simp only [builtExtensions, sourceExtensions, Option.getD_some, Option.some_inj]
    split <;> simp_all

lemma fileName?_of_extension (h : base.extension?.getD "" ≠ "") :
    base.fileName? = some (lastName base) := by
  obtain ⟨name, hname⟩ : ∃ name, base.fileName? = some name := by
    refine Option.ne_none_iff_exists'.mp fun hnone => h ?_
    rw [Path.extension?, hnone]
    rfl
  rw [hname]
  rw [Path.fileName?] at hname
  split at hname
  case h_1 last hlast =>
    obtain ⟨-, hlast'⟩ := Option.ite_none_left_eq_some.mp hname
    rw [lastName, hlast, ← hlast']
    rfl
  case h_2 => cases hname

lemma siblings_eq (base : Path) :
    siblings base = (sourceNames (lastName base)).map fun n =>
      ⟨base.anchored, base.names.dropLast ++ [n]⟩ := by
  rw [sourceNames_eq, ← extension_eq, siblings, List.map_map]
  by_cases hnone : sourceExtensions (base.extension?.getD "") = []
  · simp [hnone]
  · rw [if_pos (isScript_of_sourceExtensions hnone)]
    refine List.map_congr_left fun e _ => ?_
    have hne : base.extension?.getD "" ≠ "" := fun hempty => hnone (by rw [hempty]; rfl)
    rw [Path.withExtension, fileName?_of_extension hne]
    rfl

lemma probe?_eq (isKnown : Path → Bool) (base : Path) :
    probe? isKnown base = (preference base).find? isKnown := by
  have hlist : preference base = [base] ++ siblings base ++ extensions.map base.addExtension
      ++ extensions.map fun e => base.child ("index." ++ e) := by
    rw [siblings_eq]
    rfl
  rw [hlist, List.find?_append, List.find?_append, List.find?_append, List.find?_singleton, probe?]
  split_ifs
  · rfl
  · cases (siblings base).find? isKnown with
    | some p => rfl
    | none => cases (extensions.map base.addExtension).find? isKnown <;> rfl

lemma fallback_eq (base : Path) (defaultExtension : String) :
    fallback base defaultExtension = assumption base defaultExtension := by
  rw [fallback, isScript_eq, assumption]

lemma intercalate_concat_append (separator name added : String) (front : List String) :
    separator.intercalate (front ++ [name ++ added]) =
      separator.intercalate (front ++ [name]) ++ added := by
  cases front with
  | nil => simp
  | cons first rest =>
    rw [String.intercalate_append_of_ne_nil (by simp) (by simp),
      String.intercalate_append_of_ne_nil (by simp) (by simp), String.intercalate_singleton,
      String.intercalate_singleton, ← String.append_assoc]

lemma toString_addExtension (base : Path) {extension : String} (h : '/' ∉ extension.toList) :
    (base.addExtension extension).toString = base.toString ++ ("." ++ extension) := by
  rw [Path.addExtension, if_neg h]
  cases hlast : base.names.getLast? with
  | none =>
    rw [List.getLast?_eq_none_iff] at hlast
    simp [Path.toString, hlast]
  | some name =>
    obtain ⟨front, hnames⟩ := List.getLast?_eq_some_iff.mp hlast
    simp only [Path.toString, hnames, List.dropLast_concat, String.append_assoc,
      intercalate_concat_append]

end

/-! ## Resolving -/

section

variable {importer directory : Path} {specifier : String}

lemma resolve_eq (hdirectory : importer.parent? = some directory)
    (hrelative : specifier.startsWith "." = true) (isKnown : Path → Bool)
    (defaultExtension : String) :
    resolve importer specifier isKnown defaultExtension =
      let base := (directory.join (Path.ofString specifier)).normalize
      ((preference base).find? isKnown).elim (assumed (assumption base defaultExtension))
        resolved := by
  rw [resolve, hrelative, hdirectory]
  simp only [Bool.not_true, Bool.false_eq_true, if_false, probe?_eq, fallback_eq]
  split
  case h_1 p hfound => rw [hfound, Option.elim_some]
  case h_2 hnone => rw [hnone, Option.elim_none]

lemma elim_eq_resolved_iff {found : Option Path} {p q : Path} :
    found.elim (assumed q) resolved = resolved p ↔ found = some p := by
  cases found <;> simp

lemma elim_eq_assumed_iff {found : Option Path} {p q : Path} :
    found.elim (assumed q) resolved = assumed p ↔ found = none ∧ p = q := by
  cases found <;> simp [eq_comm]

/-- A relative specifier resolves to the first known file of the list of its path, and to the file
that is assumed just when none of the list is known. When more files are known, the outcome is no
worse, and the same unless one of the new files is on the list. -/
theorem resolve_firstKnown (hdirectory : importer.parent? = some directory)
    (hrelative : specifier.startsWith "." = true) (defaultExtension : String) :
    let base := (directory.join (Path.ofString specifier)).normalize
    let outcome := fun isKnown : Path → Bool => resolve importer specifier isKnown defaultExtension
    (∀ isKnown p, outcome isKnown = resolved p ↔ FirstKnown isKnown (preference base) p) ∧
      (∀ isKnown p, outcome isKnown = assumed p ↔
        (∀ q ∈ preference base, isKnown q = false) ∧ p = assumption base defaultExtension) ∧
      (∀ isKnown more : Path → Bool, (∀ q, isKnown q = true → more q = true) →
        (∀ p, outcome isKnown = resolved p → ∃ better, outcome more = resolved better ∧
          (preference base).idxOf better ≤ (preference base).idxOf p) ∧
        ((∀ q ∈ preference base, more q = true → isKnown q = true) →
          outcome more = outcome isKnown)) ∧
      ∀ extension, if '/' ∈ extension.toList
        then base.addExtension extension = Path.ofString (base.toString ++ ("." ++ extension))
        else (base.addExtension extension).toString = base.toString ++ ("." ++ extension) := by
  intro base outcome
  have houtcome : ∀ isKnown, outcome isKnown =
      ((preference base).find? isKnown).elim (assumed (assumption base defaultExtension)) resolved :=
    fun isKnown => resolve_eq hdirectory hrelative isKnown defaultExtension
  have hresolved : ∀ isKnown p, outcome isKnown = resolved p ↔
      FirstKnown isKnown (preference base) p := fun isKnown p => by
    rw [houtcome, elim_eq_resolved_iff, find?_eq_some_iff_firstKnown]
  refine ⟨hresolved, fun isKnown p => ?_, fun isKnown more hmore => ⟨fun p hp => ?_, fun hnew => ?_⟩,
    fun extension => ?_⟩
  · rw [houtcome, elim_eq_assumed_iff, List.find?_eq_none]
    simp only [Bool.not_eq_true]
  · obtain ⟨better, hbetter, hindex⟩ := ((hresolved isKnown p).mp hp).of_more hmore
    exact ⟨better, (hresolved more better).mpr hbetter, hindex⟩
  · have hsame : ∀ q ∈ preference base, more q = isKnown q := fun q hq =>
      Bool.eq_iff_iff.mpr ⟨hnew q hq, hmore q⟩
    rw [houtcome, houtcome, List.find?_congr hsame]
  · split_ifs with hseparator
    · exact if_pos hseparator
    · exact toString_addExtension base hseparator

/-- The specifier `./b.js` means the script `b.tsx`, until the better `b.ts` is known too. -/
theorem resolve_firstKnown_sources :
    let importer := Path.ofString "/p/src/main.ts"
    let old := Path.ofString "/p/src/b.tsx"
    let new := Path.ofString "/p/src/b.ts"
    importer.parent? = some (Path.ofString "/p/src") ∧ "./b.js".startsWith "." = true ∧
      resolve importer "./b.js" (· == old) "js" = resolved old ∧
      (∃ better, resolve importer "./b.js" (fun q => q == old || q == new) "js" = resolved better ∧
        (preference (Path.ofString "/p/src/b.js")).idxOf better ≤
          (preference (Path.ofString "/p/src/b.js")).idxOf old) ∧
      resolve importer "./b.js" (fun q => q == old || q == new) "js" = resolved new := by
  intro importer old new
  have hdirectory : importer.parent? = some (Path.ofString "/p/src") := by decide +kernel
  have hrelative : "./b.js".startsWith "." = true := by decide +kernel
  have hbase : ((Path.ofString "/p/src").join (Path.ofString "./b.js")).normalize =
      Path.ofString "/p/src/b.js" := by decide +kernel
  obtain ⟨hresolved, -, hmore, -⟩ := resolve_firstKnown hdirectory hrelative "js"
  rw [hbase] at hresolved hmore
  have hold : resolve importer "./b.js" (· == old) "js" = resolved old :=
    (hresolved _ old).mpr (find?_eq_some_iff_firstKnown.mp (by decide +kernel))
  refine ⟨hdirectory, hrelative, hold, (hmore _ _ (fun q hq => ?_)).1 old hold, ?_⟩
  · rw [hq, Bool.true_or]
  · exact (hresolved _ new).mpr (find?_eq_some_iff_firstKnown.mp (by decide +kernel))

end

end Resolution

end ScriptSurvey
