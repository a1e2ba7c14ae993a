import ScriptSurvey.Proofs.DistinctPlaces
import ScriptSurvey.Proofs.ExportFlags
import ScriptSurvey.Proofs.PatternNames

/-!
# Values of variables

A variable at the top of a file that holds a function declares it under its own name, and exports it
with its statement. One that holds a class gives its name only to a class without one: any other is
declared under the name of its own, which the statement does not export.
-/
namespace ScriptSurvey.Extraction

open Syntax (Node Place Kind)

/-! ## Reading down to a place -/

section

variable {p q r : Place} {tree : Node}

/-- Around what is read, the next place is read as well. -/
lemma Reads.parent (h : Reads p q) (hr : q.parent? = some r) :
    q = p ∨ Reads p r ∧ q ∈ readChildren r := by
  induction h with
  | here p => exact .inl rfl
  | @inside p s q child rest ih =>
    rcases ih hr with rfl | ⟨hread, hchild⟩
    · have hp := parent?_of_mem_children (mem_children_of_mem_readChildren child)
      obtain rfl := Option.some.inj (hp.symm.trans hr)
      exact .inr ⟨.here _, child⟩
    · exact .inr ⟨.inside child hread, hchild⟩

lemma Reads.parent_of_ofRoot (h : Reads (Place.ofRoot tree) q) (hr : q.parent? = some r) :
    Reads (Place.ofRoot tree) r ∧ q ∈ readChildren r := by
  refine (h.parent hr).resolve_left ?_
  rintro rfl
  cases hr

lemma mem_enclosingPlaces_of_mem_placesIn (hr : r ∈ p.children) (hq : q ∈ placesIn r) :
    p ∈ enclosingPlaces q.above := by
  have hspine : p ∈ spine q := by
    have hinner := descends_placesIn.spine_subset hq
    rw [spine_of_mem_children hr] at hinner
    exact hinner (List.mem_cons_of_mem r List.mem_cons_self)
  rcases List.mem_cons.mp hspine with rfl | haround
  · have := length_le_of_mem_spine (descends_placesIn.mem_spine hq)
    have := length_above_of_mem_children hr
    omega
  · exact haround

/-- By induction on the outer place: nothing is left out below places that are read in full. -/
lemma reads_of_mem_placesIn (hq : q ∈ placesIn p)
    (hplain : ∀ a ∈ enclosingPlaces q.above, isOutlined a.kind = false) : Reads p q := by
  induction p using children_induction with
  | step p ih =>
    rw [placesIn_eq, List.mem_cons, List.mem_flatMap] at hq
    rcases hq with rfl | ⟨r, hr, hq⟩
    · exact .here _
    · refine .inside ?_ (ih r hr hq)
      rwa [readChildren_of_not_isOutlined (hplain p (mem_enclosingPlaces_of_mem_placesIn hr hq))]

end

/-! ## Variables with a value -/

def ownName? (p : Place) : Option String := (p.node.field? "name").map (·.text)

/-- The statement of the variable is what an export statement declares. -/
structure InExport (p declaration statement : Place) : Prop where
  declared : p.parent? = some declaration
  exported : declaration.parent? = some statement
  kind : isExportStatement statement.node = true
  declares : ExportsDeclaration statement.node declaration.node
  ofVariables : isVariableStatement declaration.node = true

lemma label_of_variableDeclarator {node : Node} (h : node.kind = .variableDeclarator) :
    node.named = true ∧ node.label = "variable_declarator" := by
  unfold Node.kind at h
  split_ifs at h with hnamed
  refine ⟨hnamed, ?_⟩
  unfold Kind.ofLabel at h
  split at h <;> first | assumption | contradiction

section

variable {p v declaration statement : Place} {n : Node} {tree : Node}

lemma InExport.mem_exports (h : InExport p declaration statement) (hbound : Bound p v n)
    (hread : Reads (Place.ofRoot tree) p) :
    ⟨n.text, n.text, statement.line, .named⟩ ∈ exports tree := by
  obtain ⟨hreadDeclaration, hp⟩ := hread.parent_of_ofRoot h.declared
  obtain ⟨hreadStatement, -⟩ := hreadDeclaration.parent_of_ofRoot h.exported
  obtain ⟨hnamed, hlabel⟩ := label_of_variableDeclarator hbound.kind
  have hdeclarator : p.node ∈ declarators declaration.node := by
    refine List.mem_filter.mpr ⟨List.mem_filter.mpr ⟨?_, hnamed⟩, beq_iff_eq.mpr hlabel⟩
    exact Place.node_mem_of_mem_siblings (mem_children_of_mem_readChildren hp)
  have hname : ((p.node.field? "name").map offeredNames).getD [] = [n.text] := by
    rw [hbound.name, Option.map_some, Option.getD_some, offeredNames_eq]
    simp [isPatternName, hbound.label]
  refine (statementExports_sublist hreadStatement.mem_places h.kind).subset ?_
  rw [h.declares.statementExports_eq, declarationExports_of_isVariableStatement h.ofVariables]
  refine List.mem_map.mpr ⟨n.text, List.mem_flatMap.mpr ⟨p.node, hdeclarator, ?_⟩, rfl⟩
  rw [hname]
  exact List.mem_singleton_self _

lemma InExport.isExportedThere (h : InExport p declaration statement)
    (hkind : p.kind = .variableDeclarator) : isExportedThere p = true := by
  have hstatement : statement.kind = .exportStatement := by
    have hlabel := h.kind
    simp only [isExportStatement, Bool.and_eq_true, beq_iff_eq] at hlabel
    rw [Place.kind, Node.kind, if_pos hlabel.1, hlabel.2]
    rfl
  simp [Extraction.isExportedThere, hkind, h.declared, isExportChild, Place.parentKind?, h.exported,
    hstatement]

lemma Bound.functionAt? (h : Bound p v n) (htop : isTopLevel p = true)
    (hfunction : isFunctionValue v = true) : ∃ documented, declarationAt? p =
      some ⟨n.text, .function, none, p.line, isExportedThere p, documented⟩ := by
  have hholds : holdsFunction p = true := by simp [holdsFunction, h.value, hfunction]
  have hthere : isExportedThere p = (p.parent?.map isExportChild).getD false := by
    simp [isExportedThere, h.kind]
  refine ⟨(p.parent?.map fun d => isDocumented (exportWrapper d)).getD false, ?_⟩
  rw [declarationAt?, callableAt?_of_declarator h.kind, h.namesValue, hholds, htop, h.memberName,
    hthere]
  rfl

lemma Bound.classAt? (h : Bound p v n) (hclass : v.kind = .classDeclaration) :
    ∃ documented, declarationAt? v =
      some ⟨(ownName? v).getD n.text, .classDef, none, v.line, false, documented⟩ := by
  have hnamed : isNamedClass v = true := by
    simp [isNamedClass, hclass, isBound_of_mem_children h.mem_children, h.namesValue]
  have hname : className v = (ownName? v).getD n.text := by
    rw [className, className?, h.boundName?, ownName?]
    cases v.node.field? "name" <;> rfl
  have hexported : isExportChild v = false := by
    rw [isExportChild_of_mem_children h.mem_children, h.kind]
    rfl
  refine ⟨isDocumented (exportWrapper v), ?_⟩
  rw [declarationAt?, callableAt?_of_class hclass, Option.none_or, Extraction.classAt?,
    if_pos hnamed, hname, hexported]

end

lemma settle_mem_declarations {tree : Node} {p : Place} {d : Declaration}
    (hread : Reads (Place.ofRoot tree) p) (hd : declarationAt? p = some d) (path : Path)
    (language : Language) (lineCount : Nat) :
    settle (gather path language lineCount tree) d ∈
      (reconcileExports (gather path language lineCount tree)).declarations := by
  rw [reconcileExports_declarations_eq, gather_declarations]
  exact List.mem_map_of_mem (List.mem_filterMap.mpr ⟨p, mem_readPlaces_iff.mpr hread, hd⟩)

/-- In the sheet of a script without errors, a variable at the top that holds a function is declared
under its name, and exported with its statement. A class that it holds is declared under this name
unless it has one of its own, and exported by the statement of the variable if the two are the same.
Variables are read unless a function, class, field or other variable is around them. -/
theorem parse_bound_values {language : Language} (hscript : language.isScript = true) {tree : Node}
    (hsound : tree.hasError = false) (path : String) (bytes : ByteArray) :
    (∀ q ∈ tree.places, (∀ a ∈ enclosingPlaces q.above, isOutlined a.kind = false) →
        Reads (Place.ofRoot tree) q) ∧
      ∃ sheet, parse path language bytes (some tree) = .ok sheet ∧
        ∀ p v n, Reads (Place.ofRoot tree) p → Bound p v n → isTopLevel p = true →
          (isFunctionValue v = true → ∃ d ∈ sheet.declarations, d.name = n.text ∧
            d.kind = .function ∧ d.owner = none ∧ d.line = p.line ∧
            (isExportedThere p = true → d.exported = true)) ∧
          (v.kind = .classDeclaration → ∃ d ∈ sheet.declarations,
            d.name = (ownName? v).getD n.text ∧ d.kind = .classDef ∧ d.owner = none ∧
            d.line = v.line ∧ ∀ declaration statement, InExport p declaration statement →
              d.name = n.text → d.exported = true) := by
  refine ⟨fun q hq => reads_of_mem_placesIn hq, _, parse_eq_ok hscript hsound path bytes,
    fun p v n hread hbound htop => ⟨fun hfunction => ?_, fun hclass => ?_⟩⟩
  · obtain ⟨documented, hd⟩ := hbound.functionAt? htop hfunction
    refine ⟨_, settle_mem_declarations hread hd _ _ _, rfl, rfl, rfl, rfl, fun hexported => ?_⟩
    exact (settledFlag_of_unowned (by simp) rfl).mpr (.inl hexported)
  · obtain ⟨documented, hd⟩ := hbound.classAt? hclass
    have hvalue : v ∈ readChildren p := by simp [hbound.readChildren]
    have hread' : Reads (Place.ofRoot tree) v := hread.trans (.inside hvalue (.here v))
    refine ⟨_, settle_mem_declarations hread' hd _ _ _, rfl, rfl, rfl, rfl, ?_⟩
    intro declaration statement hexport hname
    have hlisted := hexport.mem_exports hbound hread
    exact (settledFlag_of_unowned (by simp) rfl).mpr (.inr ⟨_, hlisted, by simp, hname.symm⟩)

/-! ## Sample values -/

def arrowValue : Node :=
  part "arrow_function" "value" "() => 1" 0
    [part "formal_parameters" "parameters" "()" 0 [sign "(" 0, sign ")" 0], sign "=>" 0,
      part "number" "body" "1" 0 []]

def classValue (name : Option String) : Node :=
  part "class" "value" ("class " ++ name.elim "" (· ++ " ") ++ "\x7b\x7d") 0
    (sign "class" 0 :: (name.map fun n => part "identifier" "name" n 0 []).toList ++
      [emptyBlock "class_body" 0])

def identifierNode (field name : String) : Node := part "identifier" field name 0 []

def valueDeclarator (value : Node) : Node := declaratorNode (identifierNode "name" "X") value

def valueDeclaration (value : Node) : Node := constNode "declaration" (valueDeclarator value)

def valueTree (value : Node) : Node := programNode (exportNode (valueDeclaration value))

/-- The export statement in its file, the declaration in it, and the variable in that. -/
def exportPlace (value : Node) : Place :=
  ⟨exportNode (valueDeclaration value), [], [(valueTree value, [])]⟩

def declarationPlace (value : Node) : Place :=
  ⟨valueDeclaration value, [sign "export" 0],
    ((exportPlace value).node, (exportPlace value).before) :: (exportPlace value).above⟩

def declaratorPlace (value : Node) : Place :=
  ⟨valueDeclarator value, [{ sign "const" 0 with field := "kind" }],
    ((declarationPlace value).node, (declarationPlace value).before) ::
      (declarationPlace value).above⟩

def valuePlace (value : Node) : Place :=
  ⟨value, [sign "=" 0, identifierNode "name" "X"],
    (valueDeclarator value, (declaratorPlace value).before) :: (declaratorPlace value).above⟩

lemma inExport_declaratorPlace (value : Node) :
    InExport (declaratorPlace value) (declarationPlace value) (exportPlace value) :=
  ⟨rfl, rfl, rfl, ⟨rfl, rfl, rfl, rfl, rfl⟩, rfl⟩

lemma bound_declaratorPlace {value : Node} (hfield : value.field = "value") :
    Bound (declaratorPlace value) (valuePlace value) (identifierNode "name" "X") := by
  have hchildren : (declaratorPlace value).children =
      [⟨identifierNode "name" "X", [], (valuePlace value).above⟩,
        ⟨sign "=" 0, [identifierNode "name" "X"], (valuePlace value).above⟩,
        valuePlace value] := rfl
  refine ⟨rfl, rfl, rfl, ?_⟩
  simp [Place.field?, hchildren, identifierNode, part, sign, valuePlace, hfield]

lemma reads_declaratorPlace (value : Node) :
    Reads (Place.ofRoot (valueTree value)) (declaratorPlace value) := by
  refine .inside (r := exportPlace value) (List.Mem.head _) ?_
  refine .inside (r := declarationPlace value) (.tail _ (.head _)) ?_
  exact .inside (.tail _ (.head _)) (.here _)

theorem parse_bound_values_exported :
    (valueTree arrowValue).hasError = false ∧ (valueTree (classValue none)).hasError = false ∧
      (∃ sheet, parse "/app/f.js" .javaScript ByteArray.empty (some (valueTree arrowValue)) =
        .ok sheet ∧ ∃ d ∈ sheet.declarations, d.name = "X" ∧ d.kind = .function ∧
          d.exported = true) ∧
      ∃ sheet, parse "/app/c.js" .javaScript ByteArray.empty (some (valueTree (classValue none))) =
        .ok sheet ∧ ∃ d ∈ sheet.declarations, d.name = "X" ∧ d.kind = .classDef ∧
          d.exported = true := by
  have hscript : Language.javaScript.isScript = true := rfl
  have hfunction : (valueTree arrowValue).hasError = false := by decide +kernel
  have hclass : (valueTree (classValue none)).hasError = false := by decide +kernel
  refine ⟨hfunction, hclass, ?_, ?_⟩
  · obtain ⟨-, sheet, hparse, hvalues⟩ :=
      parse_bound_values hscript hfunction "/app/f.js" ByteArray.empty
    have hbound : Bound (declaratorPlace arrowValue) _ _ := bound_declaratorPlace rfl
    obtain ⟨d, hd, hname, hkind, -, -, hexported⟩ :=
      (hvalues _ _ _ (reads_declaratorPlace _) hbound (by decide)).1 (by decide)
    exact ⟨sheet, hparse, d, hd, hname, hkind,
      hexported ((inExport_declaratorPlace _).isExportedThere rfl)⟩
  · obtain ⟨-, sheet, hparse, hvalues⟩ :=
      parse_bound_values hscript hclass "/app/c.js" ByteArray.empty
    have hbound : Bound (declaratorPlace (classValue none)) _ _ := bound_declaratorPlace rfl
    obtain ⟨d, hd, hname, hkind, -, -, hexported⟩ :=
      (hvalues _ _ _ (reads_declaratorPlace _) hbound (by decide)).2 (by decide)
    exact ⟨sheet, hparse, d, hd, hname, hkind,
      hexported _ _ (inExport_declaratorPlace _) hname⟩

/-- The class `Y` is the value of the exported variable `X`: the file exports `X` and has no other
declaration than that of `Y`, which is not exported. -/
theorem class_value_unexported :
    let value := classValue (some "Y")
    (valueTree value).hasError = false ∧
      Reads (Place.ofRoot (valueTree value)) (declaratorPlace value) ∧
      Bound (declaratorPlace value) (valuePlace value) (identifierNode "name" "X") ∧
      isTopLevel (declaratorPlace value) = true ∧ (valuePlace value).kind = .classDeclaration ∧
      InExport (declaratorPlace value) (declarationPlace value) (exportPlace value) ∧
      ∃ sheet, parse "/app/a.js" .javaScript ByteArray.empty (some (valueTree value)) =
        .ok sheet ∧ sheet.exports = [⟨"X", "X", 1, .named⟩] ∧
          sheet.declarations = [⟨"Y", .classDef, none, 1, false, false⟩] := by
  intro value
  have hsound : (valueTree value).hasError = false := by decide +kernel
  exact ⟨hsound, reads_declaratorPlace value, bound_declaratorPlace rfl, by decide, by decide,
    inExport_declaratorPlace value, _, parse_eq_ok rfl hsound _ _, by decide +kernel,
    by decide +kernel⟩

end ScriptSurvey.Extraction
