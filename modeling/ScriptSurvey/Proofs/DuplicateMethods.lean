import Mathlib.Data.Set.Subsingleton
import ScriptSurvey.Graph.Build
import ScriptSurvey.Proofs.TextOrder

/-!
# Duplicate methods

All classes of a project are scanned for their methods, sheet by sheet. A method is a duplicate when
two owners declare it, where an owner is a class with its file. What is listed under its name are the
declarations: an owner may have several of them, and each of them is listed once.
-/
namespace ScriptSurvey.SymbolGraph

/-- Where a method stands in the scan: the numbers of its sheet, of its class and of itself. -/
structure MethodPlace where
  sheet : ℕ
  owner : ℕ
  member : ℕ

def MethodPlace.Before (p q : MethodPlace) : Prop :=
  p.sheet < q.sheet ∨ p.sheet = q.sheet ∧
    (p.owner < q.owner ∨ p.owner = q.owner ∧ p.member < q.member)

def Declares (project : Project) (name : String) (p : MethodPlace) (site : DuplicateSite) : Prop :=
  ∃ s c, project.sheets[p.sheet]? = some s ∧ s.classes[p.owner]? = some c ∧
    c.methods[p.member]? = some (name, site.line) ∧ site.owner = c.name ∧
    site.file = project.relative s.path

def owners (project : Project) (name : String) : Set (String × Path) :=
  {o | ∃ p site, Declares project name p site ∧ (site.owner, site.file) = o}

/-- The sites are those of the declarations of the method, each of them once and in the order of the
scan. -/
def ListsDeclarations (project : Project) (name : String) (sites : List DuplicateSite) : Prop :=
  ∃ places : List MethodPlace, places.Pairwise MethodPlace.Before ∧
    (∀ p, p ∈ places ↔ ∃ site, Declares project name p site) ∧
    List.Forall₂ (Declares project name) places sites

section

variable {project : Project} {name : String}

/-! ## The scan with its places -/

def placedMethods (project : Project) (name : String) (i : ℕ) (s : FactSheet) (j : ℕ)
    (c : ClassInfo) : List (MethodPlace × DuplicateSite) :=
  (c.methods.zipIdx.filter (·.1.1 == name)).map fun (m, k) =>
    (⟨i, j, k⟩, ⟨c.name, project.relative s.path, m.2⟩)

def placedSites (project : Project) (name : String) : List (MethodPlace × DuplicateSite) :=
  project.sheets.zipIdx.flatMap fun (s, i) => s.classes.zipIdx.flatMap fun (c, j) =>
    placedMethods project name i s j c

lemma mem_placedMethods_iff {i j : ℕ} {s : FactSheet} {c : ClassInfo} {p : MethodPlace}
    {site : DuplicateSite} :
    (p, site) ∈ placedMethods project name i s j c ↔ p.sheet = i ∧ p.owner = j ∧
      c.methods[p.member]? = some (name, site.line) ∧ site.owner = c.name ∧
      site.file = project.relative s.path := by
  simp only [placedMethods, List.mem_map, List.mem_filter, Prod.exists, beq_iff_eq,
    List.mk_mem_zipIdx_iff_getElem?, Prod.mk.injEq]
  constructor
  · rintro ⟨_, line, k, ⟨hk, rfl⟩, rfl, rfl⟩
    exact ⟨rfl, rfl, hk, rfl, rfl⟩
  · obtain ⟨i', j', k⟩ := p
    obtain ⟨owner, file, line⟩ := site
    rintro ⟨rfl, rfl, hk, rfl, rfl⟩
    exact ⟨name, line, k, ⟨hk, rfl⟩, rfl, rfl⟩

lemma mem_placedSites_iff {p : MethodPlace} {site : DuplicateSite} :
    (p, site) ∈ placedSites project name ↔ Declares project name p site := by
  simp only [placedSites, List.mem_flatMap, Prod.exists, List.mk_mem_zipIdx_iff_getElem?,
    mem_placedMethods_iff, Declares]
  constructor
  · rintro ⟨s, _, hs, c, _, hc, rfl, rfl, h⟩
    exact ⟨s, c, hs, hc, h⟩
  · rintro ⟨s, c, hs, hc, h⟩
    exact ⟨s, _, hs, c, _, hc, rfl, rfl, h⟩

/-- Each level of the scan is in order, and what stands deeper stays within its own. -/
lemma pairwise_placedSites :
    (placedSites project name).Pairwise fun a b => a.1.Before b.1 := by
  refine List.pairwise_flatMap.mpr ⟨fun si _ => List.pairwise_flatMap.mpr ⟨fun cj _ => ?_, ?_⟩, ?_⟩
  · refine List.pairwise_map.mpr (((pairwise_snd_zipIdx cj.1.methods).filter _).imp fun hlt => ?_)
    exact .inr ⟨rfl, .inr ⟨rfl, hlt⟩⟩
  · refine (pairwise_snd_zipIdx si.1.classes).imp fun hlt a ha b hb => ?_
    obtain ⟨hai, haj, -⟩ := mem_placedMethods_iff.mp ha
    obtain ⟨hbi, hbj, -⟩ := mem_placedMethods_iff.mp hb
    exact .inr ⟨hai.trans hbi.symm, .inl (by rwa [haj, hbj])⟩
  · refine (pairwise_snd_zipIdx project.sheets).imp fun hlt a ha b hb => ?_
    obtain ⟨_, -, ha⟩ := List.mem_flatMap.mp ha
    obtain ⟨_, -, hb⟩ := List.mem_flatMap.mp hb
    exact .inl (by rwa [(mem_placedMethods_iff.mp ha).1, (mem_placedMethods_iff.mp hb).1])

/-! ## The sites of a name -/

def sitesNamed (project : Project) (name : String) : List DuplicateSite :=
  ((methodSites project).filter (·.1 == name)).map (·.2)

lemma map_placedMethods (i : ℕ) (s : FactSheet) (j : ℕ) (c : ClassInfo) :
    (placedMethods project name i s j c).map (·.2) = (c.methods.filter (·.1 == name)).map
      fun m => ⟨c.name, project.relative s.path, m.2⟩ := by
  conv_rhs => rw [← List.zipIdx_map_fst 0 c.methods, List.filter_map, List.map_map]
  rw [placedMethods, List.map_map]
  rfl

lemma sitesNamed_eq (h : name ≠ "constructor") :
    sitesNamed project name = project.sheets.flatMap fun s => s.classes.flatMap fun c =>
      (c.methods.filter (·.1 == name)).map fun m => ⟨c.name, project.relative s.path, m.2⟩ := by
  have hkept : ∀ m : String × ℕ,
      (m.1 == name && m.1 != "constructor") = (m.1 == name) := by
    intro m
    by_cases hm : m.1 = name
    · simp [hm, h]
    · simp [hm]
  simp only [sitesNamed, methodSites, List.filter_flatMap, List.map_flatMap, List.filter_map,
    List.map_map, List.filter_filter, Function.comp_def, hkept]

lemma map_placedSites (h : name ≠ "constructor") :
    (placedSites project name).map (·.2) = sitesNamed project name := by
  rw [sitesNamed_eq h, placedSites, List.map_flatMap]
  conv_rhs => rw [← List.zipIdx_map_fst 0 project.sheets, List.flatMap_map]
  refine List.flatMap_congr fun si _ => ?_
  rw [List.map_flatMap]
  conv_rhs => rw [← List.zipIdx_map_fst 0 si.1.classes, List.flatMap_map]
  exact List.flatMap_congr fun cj _ => map_placedMethods si.2 si.1 cj.2 cj.1

lemma listsDeclarations_sitesNamed (h : name ≠ "constructor") :
    ListsDeclarations project name (sitesNamed project name) := by
  refine ⟨(placedSites project name).map (·.1), List.pairwise_map.mpr pairwise_placedSites,
    fun p => ?_, ?_⟩
  · simp [← mem_placedSites_iff]
  · rw [← map_placedSites h, List.forall₂_map_left_iff, List.forall₂_map_right_iff,
      List.forall₂_same]
    exact fun x hx => mem_placedSites_iff.mp hx

/-! ## The owners of a name -/

lemma mem_sitesNamed_iff (h : name ≠ "constructor") (site : DuplicateSite) :
    site ∈ sitesNamed project name ↔ ∃ p, Declares project name p site := by
  rw [← map_placedSites h]
  simp [mem_placedSites_iff]

/-- Owners are told apart, sites are not. -/
lemma nontrivial_owners_iff (h : name ≠ "constructor") :
    2 ≤ ((sitesNamed project name).map fun s => (s.owner, s.file)).eraseDups.length ↔
      (owners project name).Nontrivial := by
  have hmem : ∀ o, o ∈ (sitesNamed project name).map (fun s => (s.owner, s.file)) ↔
      o ∈ owners project name := by
    intro o
    rw [List.mem_map]
    constructor
    · rintro ⟨site, hsite, rfl⟩
      obtain ⟨p, hp⟩ := (mem_sitesNamed_iff h site).mp hsite
      exact ⟨p, site, hp, rfl⟩
    · rintro ⟨p, site, hp, rfl⟩
      exact ⟨site, (mem_sitesNamed_iff h site).mpr ⟨p, hp⟩, rfl⟩
  simp only [two_le_length_eraseDups_iff, hmem, Set.Nontrivial]

lemma ne_constructor_of_mem_methodSites {x : String × DuplicateSite}
    (hx : x ∈ methodSites project) : x.1 ≠ "constructor" := by
  simp only [methodSites, List.mem_flatMap, List.mem_map, List.mem_filter, bne_iff_ne] at hx
  obtain ⟨s, -, c, -, m, ⟨-, hm⟩, rfl⟩ := hx
  exact hm

lemma mem_findDuplicates_iff (sites : List DuplicateSite) :
    (name, sites) ∈ findDuplicates project ↔ name ≠ "constructor" ∧
      (owners project name).Nontrivial ∧ sitesNamed project name = sites := by
  have hfound : (name, sites) ∈ findDuplicates project ↔
      name ∈ (methodSites project).map (·.1) ∧
        2 ≤ ((sitesNamed project name).map fun s => (s.owner, s.file)).eraseDups.length ∧
        sitesNamed project name = sites := by
    rw [findDuplicates, List.mem_filterMap]
    simp only [Text.mem_sortedDistinct, Option.ite_none_right_eq_some, Option.some.injEq,
      Prod.mk.injEq]
    constructor
    · rintro ⟨_, hname, htwo, rfl, rfl⟩
      exact ⟨hname, htwo, rfl⟩
    · rintro ⟨hname, htwo, rfl⟩
      exact ⟨name, hname, htwo, rfl, rfl⟩
  rw [hfound]
  constructor
  · rintro ⟨hname, htwo, hsites⟩
    obtain ⟨x, hx, rfl⟩ := List.mem_map.mp hname
    have hne := ne_constructor_of_mem_methodSites hx
    exact ⟨hne, (nontrivial_owners_iff hne).mp htwo, hsites⟩
  · rintro ⟨hne, howners, hsites⟩
    refine ⟨?_, (nontrivial_owners_iff hne).mpr howners, hsites⟩
    obtain ⟨o, p, site, hp, -⟩ := howners.nonempty
    have hsite := (mem_sitesNamed_iff hne site).mpr ⟨p, hp⟩
    obtain ⟨x, hx, -⟩ := List.mem_map.mp hsite
    obtain ⟨hx, hname⟩ := List.mem_filter.mp hx
    exact List.mem_map.mpr ⟨x, hx, beq_iff_eq.mp hname⟩

lemma nodup_names_findDuplicates (project : Project) :
    ((findDuplicates project).map (·.1)).Nodup := by
  have hsorted := Text.pairwise_sortedDistinct ((methodSites project).map (·.1))
  rw [findDuplicates, List.map_filterMap]
  refine List.Nodup.filterMap (fun a b found ha hb => ?_) (hsorted.imp fun hlt => String.ne_of_lt hlt)
  simp only [Option.mem_def, Option.map_eq_some_iff, Option.ite_none_right_eq_some,
    Option.some.injEq] at ha hb
  obtain ⟨_, ⟨-, rfl⟩, rfl⟩ := ha
  obtain ⟨_, ⟨-, rfl⟩, hfound⟩ := hb
  exact hfound.symm

end

/-- A method is listed among the duplicates just when two owners declare it; constructors never are.
It is listed once, with all sites at which it is declared, in the order of the scan. -/
theorem duplicates_declared (project : Project) (name : String) :
    let duplicates := (build project).duplicates
    ((∃ sites, (name, sites) ∈ duplicates) ↔
      name ≠ "constructor" ∧ (owners project name).Nontrivial) ∧
    (∀ sites, (name, sites) ∈ duplicates → ListsDeclarations project name sites) ∧
    (duplicates.map (·.1)).Nodup := by
  intro duplicates
  have hmem : ∀ sites, (name, sites) ∈ duplicates ↔ name ≠ "constructor" ∧
      (owners project name).Nontrivial ∧ sitesNamed project name = sites := mem_findDuplicates_iff
  refine ⟨?_, fun sites hsites => ?_, nodup_names_findDuplicates project⟩
  · simp only [hmem, exists_and_left, exists_eq', and_true]
  · obtain ⟨hne, -, rfl⟩ := (hmem sites).mp hsites
    exact listsDeclarations_sitesNamed hne

def classSheet (names : List String) (classes : List ClassInfo) : FactSheet :=
  { FactSheet.failed ⟨true, names⟩ .javaScript 9 with parseFailed := false, classes := classes }

/-- Two accessors of one class have one owner, so another class makes the difference. -/
example :
    let accessors := classSheet ["app", "a.js"] [⟨"A", 1, none, [("value", 1), ("value", 2)], []⟩]
    let other := classSheet ["app", "b.js"] [⟨"B", 1, none, [("value", 4)], []⟩]
    (build ⟨⟨true, ["app"]⟩, [accessors]⟩).duplicates = [] ∧
      (build ⟨⟨true, ["app"]⟩, [accessors, other]⟩).duplicates =
        [("value", [⟨"A", ⟨false, ["a.js"]⟩, 1⟩, ⟨"A", ⟨false, ["a.js"]⟩, 2⟩,
          ⟨"B", ⟨false, ["b.js"]⟩, 4⟩])] := by
  decide +kernel

end ScriptSurvey.SymbolGraph
