import ScriptSurvey.Liveness
import ScriptSurvey.Proofs.FirstOccurrences
import ScriptSurvey.Proofs.IdentifierRuns

/-!
# Unused locals

A local binding is reported when the text of its file mentions the name only once. For a name of
identifier characters that is one run of them; other names, such as those with combining marks, are
no runs at all and are looked for as they are written.
-/
namespace ScriptSurvey.Liveness

open Text

def localItem (file : Path) (b : Binding) : DeadItem := ⟨.localName, b.name, none, file, b.line⟩

section

variable {files : FileSystem} {file : Path} {sheet : FactSheet} {text : String}

lemma localItem_inj {a b : Binding} (h : localItem file a = localItem file b) : a = b := by
  obtain ⟨name, line⟩ := a
  obtain ⟨name', line'⟩ := b
  simpa [localItem] using h

lemma unusedLocals_eq (h : files.readText? sheet.path = some text) :
    unusedLocals files file sheet =
      ((keepFirst (fun a b : Binding => a.name == b.name) sheet.bindings).filter fun b =>
        !b.name.startsWith "_" && countIdentifier text b.name == 1).map (localItem file) := by
  rw [unusedLocals, h]
  rfl

lemma same_binding_iff (a b : Binding) : (a.name == b.name) = true ↔ a.name = b.name := beq_iff_eq

lemma mem_unusedLocals_iff (h : files.readText? sheet.path = some text) (b : Binding) :
    localItem file b ∈ unusedLocals files file sheet ↔
      sheet.bindings.find? (·.name == b.name) = some b ∧ b.name.startsWith "_" = false ∧
        countIdentifier text b.name = 1 := by
  rw [unusedLocals_eq h, List.mem_map_of_injective fun _ _ => localItem_inj, List.mem_filter,
    mem_keepFirst_iff same_binding_iff, Bool.and_eq_true, Bool.not_eq_true', beq_iff_eq]

lemma exists_binding_of_mem (h : files.readText? sheet.path = some text) {x : DeadItem}
    (hx : x ∈ unusedLocals files file sheet) : ∃ b ∈ sheet.bindings, x = localItem file b := by
  rw [unusedLocals_eq h] at hx
  obtain ⟨b, hb, rfl⟩ := List.mem_map.mp hx
  exact ⟨b, (keepFirst_sublist _).subset (List.mem_filter.mp hb).1, rfl⟩

lemma nodup_names_unusedLocals (h : files.readText? sheet.path = some text) :
    ((unusedLocals files file sheet).map (·.name)).Nodup := by
  rw [unusedLocals_eq h, List.map_map]
  exact (nodup_map_keepFirst same_binding_iff sheet.bindings).sublist (List.filter_sublist.map _)

/-! ## Names that are mentioned once -/

lemma card_eq_one_iff {α : Type} {p : α → Prop} : Nat.card {a // p a} = 1 ↔ ∃! a, p a := by
  rw [Nat.card_eq_one_iff_exists]
  constructor
  · rintro ⟨⟨a, ha⟩, hall⟩
    exact ⟨a, ha, fun b hb => congrArg (·.1) (hall ⟨b, hb⟩)⟩
  · rintro ⟨a, ha, hall⟩
    exact ⟨⟨a, ha⟩, fun b => Subtype.ext (hall b.1 b.2)⟩

lemma countIdentifier_eq_one_iff (text name : String) : countIdentifier text name = 1 ↔
    name ≠ "" ∧ ∃! o, o ∈ occurrences name.toList text.toList ∧
      UntouchedAt name.toList text.toList o := by
  by_cases hne : name = ""
  · subst hne
    simp [countIdentifier]
  · rw [countIdentifier_eq_card hne, card_eq_one_iff, and_iff_right hne]

lemma countIdentifier_eq_one_iff_run {text name : String} (hname : IsIdentifier name.toList) :
    countIdentifier text name = 1 ↔ ∃! r : IdentifierRun text.toList, r.run = name.toList := by
  by_cases hne : name = ""
  · subst hne
    have hnone : ¬∃ r : IdentifierRun text.toList, r.run = "".toList := fun ⟨r, hr⟩ => r.ne_nil hr
    simpa [countIdentifier] using fun h => hnone h.exists
  · rw [countIdentifier_eq_card_runs hne hname, card_eq_one_iff]

end

/-- A name of identifier characters is counted as often as a run of them is the name, whatever the
text. From a file that can be read, those bindings are reported that are the first of their name, are
not marked by an underscore and have a name that is mentioned once: as one run for a name of
identifier characters, and for every name as one of the occurrences found from left to right that no
identifier character touches. Nothing else is reported, and no name twice. -/
theorem unusedLocals_runs (files : FileSystem) (file : Path) (sheet : FactSheet) (text : String)
    (h : files.readText? sheet.path = some text) :
    let reported := unusedLocals files file sheet
    (∀ line name : String, name ≠ "" → IsIdentifier name.toList → countIdentifier line name =
      Nat.card {r : IdentifierRun line.toList // r.run = name.toList}) ∧
    (∀ b : Binding, IsIdentifier b.name.toList → (localItem file b ∈ reported ↔
      sheet.bindings.find? (·.name == b.name) = some b ∧ b.name.startsWith "_" = false ∧
        ∃! r : IdentifierRun text.toList, r.run = b.name.toList)) ∧
    (∀ b : Binding, localItem file b ∈ reported ↔
      sheet.bindings.find? (·.name == b.name) = some b ∧ b.name.startsWith "_" = false ∧
        b.name ≠ "" ∧ ∃! o, o ∈ occurrences b.name.toList text.toList ∧
          UntouchedAt b.name.toList text.toList o) ∧
    (∀ x ∈ reported, ∃ b ∈ sheet.bindings, x = localItem file b) ∧
    (reported.map (·.name)).Nodup := by
  intro reported
  refine ⟨fun _ _ hne hname => countIdentifier_eq_card_runs hne hname, fun b hname => ?_,
    fun b => ?_, fun x hx => exists_binding_of_mem h hx, nodup_names_unusedLocals h⟩
  · rw [mem_unusedLocals_iff h, countIdentifier_eq_one_iff_run hname]
  · rw [mem_unusedLocals_iff h, countIdentifier_eq_one_iff]

def bindingSheet (bindings : List Binding) : FactSheet :=
  { FactSheet.failed ⟨true, ["m.js"]⟩ .javaScript 9 with
    parseFailed := false, bindings := bindings }

def scriptFiles (text : String) : FileSystem := ⟨.dir [("m.js", .file (.ofText text))]⟩

theorem unusedLocals_runs_aba :
    (scriptFiles "let aba = ababa;").readText? (bindingSheet [⟨"aba", 1⟩]).path =
        some "let aba = ababa;" ∧
      localItem ⟨false, ["m.js"]⟩ ⟨"aba", 1⟩ ∈ unusedLocals (scriptFiles "let aba = ababa;")
        ⟨false, ["m.js"]⟩ (bindingSheet [⟨"aba", 1⟩]) ∧
      IsIdentifier "aba".toList ∧
      ∃! r : IdentifierRun "let aba = ababa;".toList, r.run = "aba".toList := by
  have h : (scriptFiles "let aba = ababa;").readText? (bindingSheet [⟨"aba", 1⟩]).path =
      some "let aba = ababa;" := by decide +kernel
  have hname : IsIdentifier "aba".toList := by decide +kernel
  have hreported : localItem ⟨false, ["m.js"]⟩ ⟨"aba", 1⟩ ∈
      unusedLocals (scriptFiles "let aba = ababa;") ⟨false, ["m.js"]⟩
        (bindingSheet [⟨"aba", 1⟩]) := by decide +kernel
  exact ⟨h, hreported, hname,
    (((unusedLocals_runs _ ⟨false, ["m.js"]⟩ _ _ h).2.1 ⟨"aba", 1⟩ hname).mp hreported).2.2⟩

/-- A combining mark is no identifier character, so that the name with the mark is no run. It is
reported all the same. -/
theorem marked_name_reported :
    (scriptFiles "let v\u0301 = 1;").readText? (bindingSheet [⟨"v\u0301", 1⟩]).path =
        some "let v\u0301 = 1;" ∧
      localItem ⟨false, ["m.js"]⟩ ⟨"v\u0301", 1⟩ ∈ unusedLocals (scriptFiles "let v\u0301 = 1;")
        ⟨false, ["m.js"]⟩ (bindingSheet [⟨"v\u0301", 1⟩]) ∧
      ¬∃ r : IdentifierRun "let v\u0301 = 1;".toList, r.run = "v\u0301".toList := by
  refine ⟨by decide +kernel, by decide +kernel, ?_⟩
  rintro ⟨r, hr⟩
  have hmark : isIdentifierChar '\u0301' = true := r.isIdentifier _ (by simp [hr])
  exact absurd hmark (by decide +kernel)

end ScriptSurvey.Liveness
