import Mathlib.Data.List.Forall2
import ScriptSurvey.Proofs.NearestClasses

/-!
# Export flags

A function or class is exported where it stands, or under its name by a statement or an assignment
elsewhere in the file. A method is exported with the classes of its owner's name. Settling the
exports of a sheet once says so of every declaration, and to settle them again changes nothing.
-/
namespace ScriptSurvey.Extraction

open Syntax (Node Place Kind)

/-! ## Settling exports -/

/-- The names, as the file has them, that are exported apart from their declarations. -/
def exportedLocals (sheet : FactSheet) : List String :=
  (sheet.exports.filter (·.kind != .reExport)).map (·.bound)

def isMarked (sheet : FactSheet) (d : Declaration) : Bool :=
  d.exported || d.owner.isNone && (exportedLocals sheet).contains d.name

def exportedClasses (sheet : FactSheet) : List String :=
  (sheet.declarations.filter fun d => d.kind == .classDef && isMarked sheet d).map (·.name)

def settledFlag (sheet : FactSheet) (d : Declaration) : Bool :=
  isMarked sheet d || d.kind == .method && d.owner.any (exportedClasses sheet).contains

def settle (sheet : FactSheet) (d : Declaration) : Declaration :=
  { d with exported := settledFlag sheet d }

section

variable {sheet : FactSheet} {d : Declaration}

lemma mem_exportedLocals {n : String} :
    n ∈ exportedLocals sheet ↔ ∃ e ∈ sheet.exports, e.kind ≠ .reExport ∧ e.bound = n := by
  simp [exportedLocals, and_assoc]

lemma marked_eq (sheet : FactSheet) (d : Declaration) :
    (if d.owner.isNone && (exportedLocals sheet).contains d.name then { d with exported := true }
      else d) = { d with exported := isMarked sheet d } := by
  unfold isMarked
  cases d.owner.isNone && (exportedLocals sheet).contains d.name <;> simp

lemma settled_eq (sheet : FactSheet) (d : Declaration) :
    (match d.owner with
      | some o => if d.kind == .method && (exportedClasses sheet).contains o then
          { d with exported := true } else { d with exported := isMarked sheet d }
      | none => { d with exported := isMarked sheet d }) = settle sheet d := by
  unfold settle settledFlag
  cases howner : d.owner with
  | none => simp
  | some o =>
    rw [Option.any_some]
    dsimp only
    generalize (d.kind == DeclarationKind.method && (exportedClasses sheet).contains o) = follows
    cases follows <;> simp

/-- Only the flags change, each by the exports and classes of the sheet as it was. -/
lemma reconcileExports_eq (sheet : FactSheet) : reconcileExports sheet =
    { sheet with declarations := sheet.declarations.map (settle sheet) } := by
  have hclasses : ((sheet.declarations.map fun d =>
      { d with exported := isMarked sheet d }).filter fun d =>
        d.kind == .classDef && d.exported).map (·.name) = exportedClasses sheet := by
    rw [List.filter_map, List.map_map]
    rfl
  have hmarked := List.map_congr_left (l := sheet.declarations) fun d _ => marked_eq sheet d
  unfold exportedLocals at hmarked
  simp only [reconcileExports, hmarked, hclasses, List.map_map]
  congr 1
  exact List.map_congr_left fun d _ => settled_eq sheet d

lemma reconcileExports_declarations_eq (sheet : FactSheet) :
    (reconcileExports sheet).declarations = sheet.declarations.map (settle sheet) := by
  rw [reconcileExports_eq]

lemma settledFlag_of_ne_method (h : d.kind ≠ .method) : settledFlag sheet d = isMarked sheet d := by
  simp [settledFlag, h]

lemma settledFlag_of_unowned (hkind : d.kind ≠ .method) (howner : d.owner = none) :
    settledFlag sheet d = true ↔
      d.exported = true ∨ ∃ e ∈ sheet.exports, e.kind ≠ .reExport ∧ e.bound = d.name := by
  rw [settledFlag_of_ne_method hkind, ← mem_exportedLocals]
  simp [isMarked, howner]

lemma settledFlag_of_owned {owner : String} (hkind : d.kind = .method)
    (howner : d.owner = some owner) (hclass : d.exported = true → owner ∈ exportedClasses sheet) :
    settledFlag sheet d = true ↔ owner ∈ exportedClasses sheet := by
  simpa [settledFlag, isMarked, hkind, howner] using hclass

lemma isMarked_settle (sheet : FactSheet) (d : Declaration) :
    isMarked (reconcileExports sheet) (settle sheet d) = settledFlag sheet d := by
  change (settledFlag sheet d || d.owner.isNone && (exportedLocals sheet).contains d.name) = _
  unfold settledFlag isMarked
  generalize (d.owner.isNone && (exportedLocals sheet).contains d.name) = named
  cases named <;> simp

lemma classes_settled (d : Declaration) :
    (d.kind == .classDef && settledFlag sheet d) = (d.kind == .classDef && isMarked sheet d) := by
  by_cases hkind : d.kind = .method
  · rw [hkind]
    rfl
  · rw [settledFlag_of_ne_method hkind]

/-- The classes that are exported decide on methods only, and so stay the same. -/
lemma exportedClasses_reconcileExports (sheet : FactSheet) :
    exportedClasses (reconcileExports sheet) = exportedClasses sheet := by
  have hfilter : (fun d => d.kind == .classDef && isMarked (reconcileExports sheet) d) ∘
      settle sheet = fun d => d.kind == .classDef && isMarked sheet d := by
    funext d
    exact (congrArg _ (isMarked_settle sheet d)).trans (classes_settled d)
  conv_lhs =>
    rw [exportedClasses, reconcileExports_declarations_eq, List.filter_map, List.map_map, hfilter]
  rfl

lemma mem_exportedClasses {n : String} : n ∈ exportedClasses sheet ↔
    ∃ c ∈ (reconcileExports sheet).declarations, c.kind = .classDef ∧ c.name = n ∧
      c.exported = true := by
  rw [reconcileExports_declarations_eq]
  constructor
  · intro hn
    obtain ⟨c, hc, rfl⟩ := List.mem_map.mp hn
    rw [List.mem_filter, ← classes_settled, Bool.and_eq_true, beq_iff_eq] at hc
    exact ⟨settle sheet c, List.mem_map_of_mem hc.1, hc.2.1, rfl, hc.2.2⟩
  · rintro ⟨c, hc, hkind, rfl, hexported⟩
    obtain ⟨d, hd, rfl⟩ := List.mem_map.mp hc
    refine List.mem_map.mpr ⟨d, ?_, rfl⟩
    rw [List.mem_filter, ← classes_settled, Bool.and_eq_true, beq_iff_eq]
    exact ⟨hd, hkind, hexported⟩

lemma settle_settle (sheet : FactSheet) (d : Declaration) :
    settle (reconcileExports sheet) (settle sheet d) = settle sheet d := by
  have hflag : settledFlag (reconcileExports sheet) (settle sheet d) = settledFlag sheet d := by
    rw [settledFlag, isMarked_settle, exportedClasses_reconcileExports]
    change (settledFlag sheet d ||
      d.kind == .method && d.owner.any (exportedClasses sheet).contains) = _
    rw [settledFlag, Bool.or_assoc, Bool.or_self]
  exact congrArg (fun flag => { d with exported := flag }) hflag

/-- Settling the exports of a sheet again changes nothing. -/
theorem reconcileExports_idem (sheet : FactSheet) :
    reconcileExports (reconcileExports sheet) = reconcileExports sheet := by
  have hsettled : settle (reconcileExports sheet) ∘ settle sheet = settle sheet :=
    funext (settle_settle sheet)
  rw [reconcileExports_eq (reconcileExports sheet), reconcileExports_declarations_eq, List.map_map,
    hsettled, ← reconcileExports_declarations_eq]

end

/-! ## Declared places -/

/-- The place stands in an export statement. For a variable, the statement that declares it does. -/
def isExportedThere (p : Place) : Bool :=
  if p.kind == .variableDeclarator then (p.parent?.map isExportChild).getD false
  else isExportChild p

def declaredPlaces (tree : Node) : List Place :=
  (readPlaces (Place.ofRoot tree)).filter fun p => (declarationAt? p).isSome

lemma forall₂_filterMap {α β : Type} (f : α → Option β) (l : List α) :
    List.Forall₂ (fun a b => f a = some b) (l.filter fun a => (f a).isSome) (l.filterMap f) := by
  induction l with
  | nil => exact .nil
  | cons a l ih =>
    cases ha : f a with
    | none => simpa [ha] using ih
    | some b => simpa [ha] using ih

section

variable {p : Place} {d : Declaration}

lemma functionAt?_exported (h : functionAt? p = some d) :
    d.owner = none ∧ d.exported = isExportedThere p := by
  unfold functionAt? at h
  split_ifs at h with hdeclared hvariable
  · obtain rfl := Option.some.inj h
    have hkind : p.kind ≠ .variableDeclarator := fun hkind => by
      simp [isDeclaredFunction, isFunctionValue, hkind] at hdeclared
    simp [isExportedThere, hkind]
  · obtain rfl := Option.some.inj h
    have hkind : p.kind = .variableDeclarator := by
      simp only [namesValue, Bool.and_eq_true, beq_iff_eq] at hvariable
      exact hvariable.1.1.1
    simp [isExportedThere, hkind]

lemma classAt?_exported (h : classAt? p = some d) :
    d.owner = none ∧ d.exported = isExportedThere p := by
  unfold classAt? at h
  split_ifs at h with hclass
  obtain rfl := Option.some.inj h
  have hkind : p.kind = .classDeclaration := by
    simp only [isNamedClass, Bool.and_eq_true, beq_iff_eq] at hclass
    exact hclass.1
  simp [isExportedThere, hkind]

/-- Functions and classes have no owner, and are marked where they stand. -/
lemma declarationAt?_exported (h : declarationAt? p = some d) (hkind : d.kind ≠ .method) :
    d.owner = none ∧ d.exported = isExportedThere p := by
  rw [declarationAt?, Option.or_eq_some_iff] at h
  rcases h with h | ⟨-, h⟩
  · rw [callableAt?, Option.or_eq_some_iff] at h
    rcases h with h | ⟨-, h⟩
    · exact functionAt?_exported h
    · exact absurd (methodAt?_eq_some h).1 hkind
  · exact classAt?_exported h

/-- The nearest class of a method is declared, with the flag that the method takes. -/
lemma declaredClass_of_methodAt? {tree : Node} (hp : Reads (Place.ofRoot tree) p)
    (h : methodAt? p = some d) : ∃ c, Reads (Place.ofRoot tree) c ∧ ∃ e,
      declarationAt? c = some e ∧ e.kind = .classDef ∧ d.owner = some e.name ∧
        e.exported = d.exported := by
  unfold methodAt? at h
  split_ifs at h
  obtain ⟨c, hc, rfl⟩ := Option.map_eq_some_iff.mp h
  have hclass : isNamedClass c = true := List.find?_some hc
  have hkind : c.kind = .classDeclaration := beq_iff_eq.mp (kind_of_isNamedClass hclass)
  have hread : Reads (Place.ofRoot tree) c :=
    (hp.enclosing (List.mem_of_find?_eq_some hc)).resolve_left List.not_mem_nil
  have hplace : declarationAt? c = some ⟨className c, .classDef, none, c.line, isExportChild c,
      isDocumented (exportWrapper c)⟩ := by
    rw [declarationAt?, callableAt?_of_class hkind, Option.none_or, classAt?, if_pos hclass]
  exact ⟨c, hread, _, hplace, rfl, rfl, rfl⟩

end

/-! ## Flags of a file -/

lemma parse_eq_ok {language : Language} (hscript : language.isScript = true) {tree : Node}
    (hsound : tree.hasError = false) (path : String) (bytes : ByteArray) :
    parse path language bytes (some tree) = .ok (reconcileExports
      (gather (Path.ofString path) language (Text.countLines bytes.toList) tree)) := by
  simp [parse, hscript, hsound]

section

variable {path : Path} {language : Language} {lineCount : Nat} {tree : Node}

/-- By the class around it, a method is exported before exports are settled only if a class with the
name of its owner is. -/
lemma gather_method_flag {d : Declaration}
    (hd : d ∈ (gather path language lineCount tree).declarations) (hkind : d.kind = .method) :
    ∃ owner, d.owner = some owner ∧ (d.exported = true →
      owner ∈ exportedClasses (gather path language lineCount tree)) := by
  rw [gather_declarations] at hd
  obtain ⟨p, hp, hplace⟩ := List.mem_filterMap.mp hd
  have hmethod : methodAt? p = some d := by
    rw [← filter_declarationAt?, hplace]
    simp [Option.filter, hkind]
  obtain ⟨c, hc, e, he, heclass, howner, hflag⟩ :=
    declaredClass_of_methodAt? (mem_readPlaces_iff.mp hp) hmethod
  refine ⟨e.name, howner, fun hexported => List.mem_map.mpr ⟨e, ?_, rfl⟩⟩
  rw [List.mem_filter, gather_declarations]
  refine ⟨List.mem_filterMap.mpr ⟨c, mem_readPlaces_iff.mpr hc, he⟩, ?_⟩
  simp [heclass, isMarked, hflag, hexported]

end

/-- In the sheet of a script without errors, a method is exported exactly when a class with the name
of its owner is. Each function or class that is declared is exported exactly when it stands in an
export statement, or when an export of the file has its name, exports from other modules apart. The
flags are settled for good. -/
theorem parse_export_flags {language : Language} (hscript : language.isScript = true) {tree : Node}
    (hsound : tree.hasError = false) (path : String) (bytes : ByteArray) :
    ∃ sheet, parse path language bytes (some tree) = .ok sheet ∧
      (∀ d ∈ sheet.declarations, d.kind = .method → ∃ owner, d.owner = some owner ∧
        (d.exported = true ↔ ∃ c ∈ sheet.declarations, c.kind = .classDef ∧ c.name = owner ∧
          c.exported = true)) ∧
      List.Forall₂ (fun p d => (∃ flag, declarationAt? p = some { d with exported := flag }) ∧
        (d.kind ≠ .method → (d.exported = true ↔ isExportedThere p = true ∨
          ∃ e ∈ sheet.exports, e.kind ≠ .reExport ∧ e.bound = d.name)))
        (declaredPlaces tree) sheet.declarations ∧
      reconcileExports sheet = sheet := by
  refine ⟨_, parse_eq_ok hscript hsound path bytes, ?_, ?_, reconcileExports_idem _⟩
  · intro d hd hkind
    rw [reconcileExports_declarations_eq] at hd
    obtain ⟨m, hm, rfl⟩ := List.mem_map.mp hd
    obtain ⟨owner, howner, hfollows⟩ := gather_method_flag hm hkind
    refine ⟨owner, howner, ?_⟩
    rw [← mem_exportedClasses]
    exact settledFlag_of_owned hkind howner hfollows
  · rw [reconcileExports_declarations_eq, gather_declarations, List.forall₂_map_right_iff]
    refine (forall₂_filterMap declarationAt? _).imp fun p d hd =>
      ⟨⟨d.exported, hd⟩, fun hkind => ?_⟩
    obtain ⟨howner, hflag⟩ := declarationAt?_exported hd hkind
    rw [← hflag]
    exact settledFlag_of_unowned hkind howner

/-- The class `C` with the method `m`, exported by a statement below it. -/
def lateExportTree : Node :=
  let block := "\x7b this.o(); \x7d"
  let body := "\x7b m() " ++ block ++ " \x7d"
  let text := "class C " ++ body
  part "program" "" (text ++ "\nexport default C;") 0
    [classNode "class_declaration" (some "C") text body
        (methodNode "m" ("m() " ++ block) block thisCall),
      part "export_statement" "" "export default C;" 1
        [sign "export" 1, sign "default" 1, part "identifier" "value" "C" 1 [], sign ";" 1]]

theorem parse_export_flags_late :
    lateExportTree.hasError = false ∧
      ∃ sheet, parse "/app/lib.js" .javaScript ByteArray.empty (some lateExportTree) = .ok sheet ∧
        sheet.declarations.map (fun d => (d.name, d.exported)) = [("C", true), ("m", true)] ∧
        (declaredPlaces lateExportTree).map isExportedThere = [false, false] ∧
        (∃ e ∈ sheet.exports, e.kind ≠ .reExport ∧ e.bound = "C") ∧
        reconcileExports sheet = sheet := by
  have hscript : Language.javaScript.isScript = true := rfl
  have hsound : lateExportTree.hasError = false := by decide +kernel
  have hplaces : (declaredPlaces lateExportTree).map isExportedThere = [false, false] := by
    decide +kernel
  obtain ⟨sheet, hparse, hmethods, hflags, hsettled⟩ :=
    parse_export_flags hscript hsound "/app/lib.js" ByteArray.empty
  obtain rfl := Except.ok.inj (hparse.symm.trans (parse_eq_ok hscript hsound _ _))
  exact ⟨hsound, _, hparse, by decide +kernel, hplaces, by decide +kernel, hsettled⟩

end ScriptSurvey.Extraction
