import ScriptSurvey.Proofs.ListedModules
import ScriptSurvey.Proofs.LivenessExports

/-!
# Names of required modules

A call of `require` takes names from a module: a member, all of them, or those that an object
pattern takes apart. What a call takes is told by its surroundings. Every element of a pattern counts
but a rest, which takes nothing. The module has no dead export among the names that are taken.
-/
namespace ScriptSurvey.Extraction

open Syntax (Node Place Kind)

/-! ## Calls of `require` -/

/-- The call of `require` with the fragment in its arguments. -/
def requireCall? (fragment : Place) : Option Place :=
  (callOf? fragment).filter fun c =>
    hasFunction c.node fun f => f.label == "identifier" && f.text == "require"

def requiredBindings (fragment : Place) : List ImportBinding :=
  match requireCall? fragment with
  | some c => requireBindings c fragment.text
  | none => []

def memberRead? (call : Place) : Option String :=
  (call.parent?.filter (·.node.label == "member_expression")).bind fun m =>
    (m.node.field? "property").map (·.text)

def objectPattern? (call : Place) : Option Node :=
  (declaredName? call).filter (·.label == "object_pattern")

/-- The name that an element of an object pattern takes from the module: that of the element, or the
key of a pair. -/
def elementName? (item : Node) : Option String :=
  match item.label with
  | "shorthand_property_identifier_pattern" => some item.text
  | "pair_pattern" => (item.field? "key").map (·.text)
  | "object_assignment_pattern" => (item.field? "left").map (·.text)
  | _ => none

def takenNames (call : Place) : List String :=
  match objectPattern? call with
  | some pattern => pattern.namedChildren.filterMap elementName?
  | none => [(memberRead? call).getD wildcard]

section

variable {call : Place} {source : String} {line : Nat} {pattern : Node}
  {b : ImportBinding}

lemma of_mem_patternBindings (h : b ∈ patternBindings source line pattern) :
    b.source = source ∧ b.kind = .require ∧ b.line = line := by
  obtain ⟨item, -, hitem⟩ := List.mem_filterMap.mp h
  dsimp only at hitem
  split at hitem
  · obtain rfl := Option.some.inj hitem
    exact ⟨rfl, rfl, rfl⟩
  · obtain ⟨key, -, rfl⟩ := Option.map_eq_some_iff.mp hitem
    exact ⟨rfl, rfl, rfl⟩
  · obtain ⟨left, -, rfl⟩ := Option.map_eq_some_iff.mp hitem
    exact ⟨rfl, rfl, rfl⟩
  · cases hitem

lemma patternBindings_imported (source : String) (line : Nat) (pattern : Node) :
    (patternBindings source line pattern).map (·.imported) =
      pattern.namedChildren.filterMap elementName? := by
  rw [patternBindings, List.map_filterMap]
  refine List.filterMap_congr fun item _ => ?_
  split
  case h_1 hlabel => simp [elementName?, hlabel]
  case h_2 hlabel => simp [elementName?, hlabel, Function.comp_def]
  case h_3 hlabel => simp [elementName?, hlabel, Function.comp_def]
  case h_4 hshorthand hpair hdefault =>
    unfold elementName?
    split <;> first | contradiction | rfl

/-- A call takes the member that is read of it, or what an object pattern names, or all names. -/
lemma requireBindings_cases (call : Place) (source : String) :
    (∃ name bound, memberRead? call = some name ∧
        requireBindings call source = [⟨name, bound, source, .require, call.line⟩]) ∨
      (memberRead? call = none ∧ ∃ pattern, objectPattern? call = some pattern ∧
        requireBindings call source = patternBindings source call.line pattern) ∨
      (memberRead? call = none ∧ objectPattern? call = none ∧ ∃ bound,
        requireBindings call source = [⟨wildcard, bound, source, .require, call.line⟩]) := by
  have hmember : memberRead? call =
      ((call.parent?.filter (·.node.label == "member_expression")).bind fun m =>
        (m.node.field? "property").map fun property => (m, property.text)).map (·.2) := by
    rw [memberRead?, Option.map_bind]
    simp only [Option.map_map, Function.comp_def]
  unfold requireBindings
  dsimp only
  split
  case h_1 m name hread => exact .inl ⟨name, _, by rw [hmember, hread]; rfl, rfl⟩
  case h_2 hread =>
    have hnone : memberRead? call = none := by rw [hmember, hread]; rfl
    right
    split
    case h_1 name hname =>
      split_ifs with hidentifier hpattern
      · have hlabel : name.label ≠ "object_pattern" := by rw [beq_iff_eq.mp hidentifier]; decide
        exact .inr ⟨hnone, by simp [objectPattern?, hname, hlabel], _, rfl⟩
      · exact .inl ⟨hnone, name, by simp [objectPattern?, hname, beq_iff_eq.mp hpattern], rfl⟩
      · exact .inr ⟨hnone, by simpa [objectPattern?, hname] using hpattern, _, rfl⟩
    case h_2 hname => exact .inr ⟨hnone, by simp [objectPattern?, hname], _, rfl⟩

lemma objectPattern?_of_memberRead {name : String} (h : memberRead? call = some name) :
    objectPattern? call = none := by
  obtain ⟨m, hm, -⟩ := Option.bind_eq_some_iff.mp h
  obtain ⟨hparent, hlabel⟩ := Option.filter_eq_some_iff.mp hm
  simp [objectPattern?, declaredName?, hparent, Option.filter, beq_iff_eq.mp hlabel]

lemma of_mem_requireBindings (h : b ∈ requireBindings call source) :
    b.source = source ∧ b.kind = .require ∧ b.line = call.line := by
  rcases requireBindings_cases call source with
    ⟨name, bound, -, heq⟩ | ⟨-, pattern, -, heq⟩ | ⟨-, -, bound, heq⟩ <;> rw [heq] at h
  · rw [List.mem_singleton.mp h]
    exact ⟨rfl, rfl, rfl⟩
  · exact of_mem_patternBindings h
  · rw [List.mem_singleton.mp h]
    exact ⟨rfl, rfl, rfl⟩

/-- A pattern takes exactly the names of its elements, any other call one member or all names. -/
lemma requireBindings_imported (call : Place) (source : String) :
    (requireBindings call source).map (·.imported) = takenNames call := by
  unfold takenNames
  rcases requireBindings_cases call source with
    ⟨name, bound, hread, heq⟩ | ⟨-, pattern, hpattern, heq⟩ | ⟨hread, hpattern, bound, heq⟩
  · rw [heq, objectPattern?_of_memberRead hread, hread]
    rfl
  · rw [heq, hpattern, patternBindings_imported]
  · rw [heq, hpattern, hread]
    rfl

end

/-! ## Imports by line -/

/-- The imports in the order of the tree: those of statements, of `require`, of `import` calls and
of exports. -/
def importsByPlace (tree : Node) : List ImportBinding :=
  let esm := tree.places.flatMap fun p =>
    match importStatementOf? p with
    | some i => esmBindings i.node p.text
    | none => []
  let dynamic := tree.places.flatMap fun p =>
    match (callOf? p).filter fun c => hasFunction c.node fun f => f.label == "import" with
    | some _ => [⟨wildcard, wildcard, p.text, .dynamic, p.line⟩]
    | none => []
  let passedOn := (tree.places.filter fun p => isExportStatement p.node).flatMap fun p =>
    reExportBindings p.node
  esm ++ tree.places.flatMap requiredBindings ++ dynamic ++ passedOn

section

variable {tree : Node} {fragment call : Place} {b : ImportBinding}

lemma imports_of_parse {path : String} {language : Language} {bytes : ByteArray}
    {sheet : FactSheet} (h : parse path language bytes (some tree) = .ok sheet) :
    sheet.imports = imports tree := by
  rw [eq_of_parse h]
  rfl

lemma mem_imports : b ∈ imports tree ↔ b ∈ importsByPlace tree := mem_byLine

lemma requireBindings_sublist (hfragment : fragment ∈ tree.places)
    (hcall : requireCall? fragment = some call) :
    (requireBindings call fragment.text).Sublist (imports tree) := by
  have hown : requiredBindings fragment = requireBindings call fragment.text := by
    rw [requiredBindings, hcall]
  have hplaces : (requireBindings call fragment.text).Sublist
      (tree.places.flatMap requiredBindings) :=
    hown ▸ sublist_flatMap_of_mem requiredBindings hfragment
  have hlisted : (requireBindings call fragment.text).Sublist (importsByPlace tree) :=
    ((hplaces.trans (List.sublist_append_right _ _)).trans (List.sublist_append_left _ _)).trans
      (List.sublist_append_left _ _)
  exact sublist_byLine hlisted fun b hb => (of_mem_requireBindings hb).2.2

lemma kind_of_mem_esmBindings {statement : Node} {source : String}
    (h : b ∈ esmBindings statement source) : b.kind = .esm := by
  unfold esmBindings at h
  dsimp only at h
  split at h
  · cases h
  · obtain ⟨child, -, hb⟩ := List.mem_flatMap.mp h
    split at hb
    · rw [List.mem_singleton.mp hb]
    · obtain ⟨name, -, rfl⟩ := Option.map_eq_some_iff.mp (Option.mem_toList.mp hb)
      rfl
    · obtain ⟨spec, -, hspec⟩ := List.mem_filterMap.mp hb
      obtain ⟨name, -, rfl⟩ := Option.map_eq_some_iff.mp hspec
      rfl
    · cases hb

lemma kind_of_mem_reExportBindings {statement : Node} (h : b ∈ reExportBindings statement) :
    b.kind = .reExport := by
  unfold reExportBindings at h
  dsimp only at h
  split at h
  · cases h
  · split at h
    · obtain ⟨spec, -, hspec⟩ := List.mem_filterMap.mp h
      obtain ⟨name, -, rfl⟩ := Option.map_eq_some_iff.mp hspec
      rfl
    · rw [List.mem_singleton.mp h]

lemma exists_requireCall (hb : b ∈ imports tree) (hkind : b.kind = .require) :
    ∃ fragment ∈ tree.places, ∃ call, requireCall? fragment = some call ∧
      b ∈ requireBindings call fragment.text := by
  rw [mem_imports, importsByPlace, List.mem_append, List.mem_append, List.mem_append] at hb
  rcases hb with ((hb | hb) | hb) | hb
  · obtain ⟨p, -, hb⟩ := List.mem_flatMap.mp hb
    split at hb
    · rw [kind_of_mem_esmBindings hb] at hkind
      cases hkind
    · cases hb
  · obtain ⟨p, hp, hb⟩ := List.mem_flatMap.mp hb
    unfold requiredBindings at hb
    split at hb
    case h_1 call hcall => exact ⟨p, hp, call, hcall, hb⟩
    case h_2 => cases hb
  · obtain ⟨p, -, hb⟩ := List.mem_flatMap.mp hb
    split at hb
    · rw [List.mem_singleton.mp hb] at hkind
      cases hkind
    · cases hb
  · obtain ⟨p, -, hb⟩ := List.mem_flatMap.mp hb
    rw [kind_of_mem_reExportBindings hb] at hkind
    cases hkind

end

end ScriptSurvey.Extraction

namespace ScriptSurvey.Liveness

open Extraction
open Syntax (Node Place)

/-! ## Live exports -/

section

variable {files : FileSystem} {project : Project} {scope : Path} {config : LivenessConfig}

lemma startsWith_of_resolve {importer target : Path} {specifier defaultExtension : String}
    {isKnown : Path → Bool}
    (h : (Resolution.resolve importer specifier isKnown defaultExtension).path? = some target) :
    specifier.startsWith "." = true := by
  unfold Resolution.resolve at h
  split_ifs at h with hrelative
  · cases h
  · simpa using hrelative

lemma deadExport_of_mem_classify {limit : Nat} {x : DeadItem}
    (hx : x ∈ (classify files project scope config limit).items) (hkind : x.kind = .exportName) :
    ∃ s ∈ reportedSheets project scope, ∃ e, DeadExport files project config s e ∧
      x = exportItem project s e := by
  have hmem : x ∈ (deadItems files project scope config).filter (·.kind == .exportName) :=
    List.mem_filter.mpr ⟨List.mem_of_mem_take hx, beq_iff_eq.mpr hkind⟩
  rw [deadItems_filter_exportName.mem_iff, List.mem_flatMap] at hmem
  obtain ⟨s, hs, hitem⟩ := hmem
  obtain ⟨e, hdead, hx⟩ := (mem_sheetExportItems_iff s x).mp hitem
  exact ⟨s, hs, e, hdead, hx⟩

/-- A file that a recorded import comes to has no dead export of the imported name, and none at all
if all names are imported. -/
lemma DeadExport.not_taken {s sheet : FactSheet} {e : ExportBinding} {b : ImportBinding}
    (hdead : DeadExport files project config s e) (hsheet : sheet ∈ project.sheets)
    (hb : b ∈ sheet.imports)
    (htarget : (Resolution.resolve sheet.path b.source project.contains
      config.defaultExtension).path? = some s.path) :
    b.imported ≠ wildcard ∧ b.imported ≠ e.name := by
  rw [← not_or]
  intro htaken
  exact hdead.notImported
    ⟨sheet, hsheet, b, hb, startsWith_of_resolve htarget, htarget, htaken.symm⟩

end

/-- For every call of `require`, what it takes is recorded with the module: the names of the
elements of an object pattern, or the member read, or all names. Nothing else is recorded as
required. No export of the module that is taken is reported as dead, and none at all when all names
are taken. -/
theorem required_names_recorded (tree : Node) :
    (∀ fragment ∈ tree.places, ∀ call, requireCall? fragment = some call →
      (requireBindings call fragment.text).Sublist (imports tree) ∧
      (requireBindings call fragment.text).map (·.imported) = takenNames call ∧
      ∀ b ∈ requireBindings call fragment.text,
        b.source = fragment.text ∧ b.kind = .require ∧ b.line = call.line) ∧
    (∀ b ∈ imports tree, b.kind = .require → ∃ fragment ∈ tree.places, ∃ call,
      requireCall? fragment = some call ∧ b ∈ requireBindings call fragment.text) ∧
    ∀ path language bytes sheet, parse path language bytes (some tree) = .ok sheet →
      ∀ files project, sheet ∈ project.sheets → ∀ scope config limit,
        ∀ fragment ∈ tree.places, ∀ call, requireCall? fragment = some call →
        ∀ x ∈ (classify files project scope config limit).items, x.kind = .exportName →
          ∃ s ∈ reportedSheets project scope, ∃ e, DeadExport files project config s e ∧
            x = exportItem project s e ∧
            ((Resolution.resolve sheet.path fragment.text project.contains
                config.defaultExtension).path? = some s.path →
              wildcard ∉ takenNames call ∧ e.name ∉ takenNames call) := by
  refine ⟨fun fragment hfragment call hcall => ⟨requireBindings_sublist hfragment hcall,
    requireBindings_imported call fragment.text, fun b => of_mem_requireBindings⟩,
    fun b => exists_requireCall, ?_⟩
  intro path language bytes sheet hparse files project hsheet scope config limit fragment hfragment
    call hcall x hx hkind
  obtain ⟨s, hs, e, hdead, hitem⟩ := deadExport_of_mem_classify hx hkind
  refine ⟨s, hs, e, hdead, hitem, fun htarget => ?_⟩
  have hnames : ∀ name ∈ takenNames call, name ≠ wildcard ∧ name ≠ e.name := by
    intro name hname
    rw [← requireBindings_imported call fragment.text] at hname
    obtain ⟨b, hb, rfl⟩ := List.mem_map.mp hname
    have hrecorded : b ∈ sheet.imports := by
      rw [imports_of_parse hparse]
      exact (requireBindings_sublist hfragment hcall).subset hb
    exact hdead.not_taken hsheet hrecorded ((of_mem_requireBindings hb).1 ▸ htarget)
  exact ⟨fun h => (hnames _ h).1 rfl, fun h => (hnames _ h).2 rfl⟩

/-! ## Sample calls -/

def requireNode : Node :=
  part "call_expression" "value" "require(\"./lib\")" 0
    [part "identifier" "function" "require" 0 [],
      part "arguments" "arguments" "(\"./lib\")" 0
        [sign "(" 0,
          part "string" "" "\"./lib\"" 0
            [sign "\"" 0, part "string_fragment" "" "./lib" 0 [], sign "\"" 0],
          sign ")" 0]]

def requireTree (pattern : Node) : Node :=
  programNode (constNode "" (declaratorNode pattern requireNode))

/-- An object pattern of a name, a pair, and a name with a default. -/
def elementsPattern : Node :=
  part "object_pattern" "name" "\x7b a, b: c, d = 1 \x7d" 0
    [sign "\x7b" 0, part "shorthand_property_identifier_pattern" "" "a" 0 [], sign "," 0,
      part "pair_pattern" "" "b: c" 0
        [part "property_identifier" "key" "b" 0 [], sign ":" 0,
          part "identifier" "value" "c" 0 []],
      sign "," 0,
      part "object_assignment_pattern" "" "d = 1" 0
        [part "shorthand_property_identifier_pattern" "left" "d" 0 [], sign "=" 0,
          part "number" "right" "1" 0 []],
      sign "\x7d" 0]

theorem required_names_recorded_elements :
    ∃ fragment ∈ (requireTree elementsPattern).places, ∃ call,
      requireCall? fragment = some call ∧ takenNames call = ["a", "b", "d"] ∧
        ∀ name ∈ takenNames call, ∃ b ∈ imports (requireTree elementsPattern),
          b.imported = name ∧ b.source = "./lib" ∧ b.kind = .require := by
  have hcall : ∃ fragment ∈ (requireTree elementsPattern).places, fragment.text = "./lib" ∧
      ∃ call ∈ requireCall? fragment, takenNames call = ["a", "b", "d"] := by decide +kernel
  obtain ⟨fragment, hfragment, htext, call, hcall, htaken⟩ := hcall
  obtain ⟨hrecorded, himported, htold⟩ :=
    (required_names_recorded (requireTree elementsPattern)).1 fragment hfragment call hcall
  refine ⟨fragment, hfragment, call, hcall, htaken, fun name hname => ?_⟩
  rw [← himported] at hname
  obtain ⟨b, hb, rfl⟩ := List.mem_map.mp hname
  exact ⟨b, hrecorded.subset hb, rfl, htext ▸ (htold b hb).1, (htold b hb).2.1⟩

def restPattern : Node :=
  part "object_pattern" "name" "\x7b ...rest \x7d" 0
    [sign "\x7b" 0,
      part "rest_pattern" "" "...rest" 0 [sign "..." 0, part "identifier" "" "rest" 0 []],
      sign "\x7d" 0]

def libSheet : FactSheet :=
  linkingSheet ["app", "lib.js"] [] [⟨"b", "b", 1, .commonJs⟩] []

/-- A rest takes all names of a module, but nothing is recorded, and an export of the module is
reported as dead. -/
theorem rest_not_recorded :
    let tree := requireTree restPattern
    tree.hasError = false ∧
      (∃ fragment ∈ tree.places, ∃ call ∈ requireCall? fragment, ∃ pattern ∈ objectPattern? call,
        ∃ item ∈ pattern.namedChildren, item.label = "rest_pattern") ∧
      imports tree = [] ∧
      ∃ sheet, parse "/app/main.js" .javaScript ByteArray.empty (some tree) = .ok sheet ∧
        ⟨.exportName, "b", none, ⟨false, ["lib.js"]⟩, 1⟩ ∈
          (classify ⟨.dir []⟩ ⟨⟨true, ["app"]⟩, [sheet, libSheet]⟩ ⟨true, ["app"]⟩
            ⟨[], [], "js", 50⟩ 50).items := by
  intro tree
  refine ⟨by decide +kernel, by decide +kernel, by decide +kernel, _, rfl, ?_⟩
  rw [classify_items (by rw [classify_total]; decide +kernel), deadItems_perm.mem_iff]
  decide +kernel

end ScriptSurvey.Liveness
