import Mathlib.Data.List.TakeWhile
import ScriptSurvey.Extraction.Sheet
import ScriptSurvey.Proofs.FirstOccurrences
import ScriptSurvey.Proofs.LivenessDeclarations
import ScriptSurvey.Proofs.OutlineReading

/-!
# The calls of a sheet

A sheet has a call of a name exactly when some place that is read calls it. Calls count once for
each caller and key, which loses no name as long as names have no dots.
-/
namespace ScriptSurvey.Extraction

open Syntax (Node Place Kind)

/-! ## Harvests -/

section

variable {scope : Scope} {p : Place}

lemma concat_calls (parts : List Harvest) :
    (Harvest.concat parts).calls = parts.flatMap (·.calls) := by
  induction parts with
  | nil => rfl
  | cons h parts ih =>
    change h.calls ++ (Harvest.concat parts).calls = _
    rw [ih, List.flatMap_cons]

lemma sizeOf_of_mem_reading {o : Outline p} {x : Scope × Place} (hx : x ∈ o.reading) :
    sizeOf x.2.node < sizeOf p.node := by
  obtain ⟨y, -, rfl⟩ := List.mem_map.mp hx
  exact y.2.2

lemma harvest_calls (h : Settled scope p) :
    (harvest scope p).calls = (ownCall? scope p).toList ++
      (outline scope p).reading.flatMap fun x => (harvest x.1 x.2).calls := by
  rw [harvest]
  change ((outline scope p).finish _).calls = _
  rw [(outline_covers h).finish, concat_calls, List.flatMap_map, Outline.reading,
    List.flatMap_map]

/-- By induction on the size of the node: the callees of a harvest are the names that its places
call. -/
theorem exists_harvest_call_iff (h : Settled scope p) (n : String) :
    (∃ c ∈ (harvest scope p).calls, c.callee = n) ↔ Mentions p n := by
  induction hsize : sizeOf p.node using Nat.strongRecOn generalizing scope p with
  | _ size ih =>
    have hcovers := outline_covers h
    have hinner : ∀ x ∈ (outline scope p).reading,
        ((∃ c ∈ (harvest x.1 x.2).calls, c.callee = n) ↔ Mentions x.2 n) := fun x hx =>
      ih _ (hsize ▸ sizeOf_of_mem_reading hx) (hcovers.settled x hx) rfl
    rw [mentions_iff, ← hcovers.mentions, ← exists_ownCall?_iff, harvest_calls h]
    simp only [List.mem_append, Option.mem_toList, List.mem_flatMap]
    constructor
    · rintro ⟨c, hown | ⟨x, hx, hc⟩, hn⟩
      · exact Or.inl ⟨c, hown, hn⟩
      · exact Or.inr ⟨x, hx, (hinner x hx).mp ⟨c, hc, hn⟩⟩
    · rintro (⟨c, hown, hn⟩ | ⟨x, hx, hmentions⟩)
      · exact ⟨c, Or.inl hown, hn⟩
      · obtain ⟨c, hc, hn⟩ := (hinner x hx).mpr hmentions
        exact ⟨c, Or.inr ⟨x, hx, hc⟩, hn⟩

end

lemma settled_ofRoot (tree : Node) : Settled Scope.outer (Place.ofRoot tree) :=
  ⟨rfl, fun _ => rfl⟩

/-! ## Distinct calls -/

def lastPart (key : String) : List Char := (key.toList.reverse.takeWhile (· != '.')).reverse

lemma lastPart_key {c : CallSite} (hplain : '.' ∉ c.callee.toList) :
    lastPart c.key = c.callee.toList := by
  have hdot : ∀ a ∈ c.callee.toList.reverse, (a != '.') = true := by
    intro a ha
    rw [bne_iff_ne]
    rintro rfl
    exact hplain (List.mem_reverse.mp ha)
  unfold lastPart CallSite.key memberKey
  cases c.qualifier with
  | none =>
    dsimp only
    rw [List.takeWhile_eq_self_iff.mpr hdot, List.reverse_reverse]
  | some qualifier =>
    have hdotted : (qualifier ++ "." ++ c.callee).toList =
        qualifier.toList ++ '.' :: c.callee.toList := by simp
    dsimp only
    rw [hdotted, List.reverse_append, List.reverse_cons, List.append_assoc,
      List.takeWhile_append_of_pos hdot]
    simp

lemma sameCall_iff (a b : CallSite) : (a.caller == b.caller && a.key == b.key) = true ↔
    (a.caller, a.key) = (b.caller, b.key) := by
  simp only [Bool.and_eq_true, beq_iff_eq, Prod.mk.injEq]

lemma distinctCalls_sublist (calls : List CallSite) : (distinctCalls calls).Sublist calls :=
  keepFirst_sublist calls

lemma nodup_distinctCalls (calls : List CallSite) :
    ((distinctCalls calls).map fun c => (c.caller, c.key)).Nodup :=
  nodup_map_keepFirst sameCall_iff calls

lemma exists_mem_distinctCalls {calls : List CallSite} {c : CallSite} (hc : c ∈ calls) :
    ∃ d ∈ distinctCalls calls, d.caller = c.caller ∧ d.key = c.key := by
  obtain ⟨d, hd, hkeys⟩ := List.mem_map.mp
    ((mem_map_keepFirst sameCall_iff calls _).mpr (List.mem_map.mpr ⟨c, hc, rfl⟩))
  exact ⟨d, hd, congrArg Prod.fst hkeys, congrArg Prod.snd hkeys⟩

/-- Keys without further dots tell the called names. -/
lemma exists_distinctCalls_iff {calls : List CallSite}
    (hplain : ∀ c ∈ calls, '.' ∉ c.callee.toList) (n : String) :
    (∃ c ∈ distinctCalls calls, c.callee = n) ↔ ∃ c ∈ calls, c.callee = n := by
  constructor
  · rintro ⟨c, hc, hn⟩
    exact ⟨c, (distinctCalls_sublist calls).subset hc, hn⟩
  · rintro ⟨c, hc, rfl⟩
    obtain ⟨d, hd, -, hkey⟩ := exists_mem_distinctCalls hc
    refine ⟨d, hd, String.toList_inj.mp ?_⟩
    rw [← lastPart_key (hplain d ((distinctCalls_sublist calls).subset hd)), hkey,
      lastPart_key (hplain c hc)]

/-! ## Sheets -/

section

variable {path : String} {language : Language} {bytes : ByteArray} {tree : Node}
  {sheet : FactSheet}

lemma eq_of_parse (h : parse path language bytes (some tree) = .ok sheet) :
    sheet = reconcileExports
      (gather (Path.ofString path) language (Text.countLines bytes.toList) tree) := by
  unfold parse at h
  dsimp only at h
  split_ifs at h
  exact (Except.ok.inj h).symm

lemma calls_of_parse (h : parse path language bytes (some tree) = .ok sheet) :
    sheet.calls = distinctCalls (harvest Scope.outer (Place.ofRoot tree)).calls := by
  rw [eq_of_parse h]
  rfl

end

/-- No called name has a dot, as the grammar has it. -/
def PlainNames (tree : Node) : Prop := ∀ q ∈ tree.places, ∀ n, Calls q n → '.' ∉ n.toList

lemma plainNames_iff (tree : Node) :
    PlainNames tree ↔
      ∀ c ∈ tree.places.filterMap (ownCall? Scope.outer), '.' ∉ c.callee.toList := by
  simp only [List.mem_filterMap]
  constructor
  · rintro hplain c ⟨q, hq, hc⟩
    exact hplain q hq _ (exists_ownCall?_iff.mp ⟨c, hc, rfl⟩)
  · intro hplain q hq n hcalls
    obtain ⟨c, hc, rfl⟩ := exists_ownCall?_iff.mpr hcalls
    exact hplain c ⟨q, hq, hc⟩

instance : DecidablePred PlainNames := fun tree => decidable_of_iff _ (plainNames_iff tree).symm

/-- The calls of a sheet are exactly those of the places that are read: one in the heritage or a
decorator of a declared class, in the name of a member or in the pattern of a variable is not among
them. What a read place calls is not dead. -/
theorem gather_calls_read (tree : Node) (plain : PlainNames tree) (n : String) :
    (∀ path language lineCount,
      (∃ c ∈ (gather path language lineCount tree).calls, c.callee = n) ↔
        ∃ q, Reads (Place.ofRoot tree) q ∧ Calls q n) ∧
    ((∃ q, Reads (Place.ofRoot tree) q ∧ Calls q n) →
      ∀ path language bytes sheet, parse path language bytes (some tree) = .ok sheet →
        ∀ files project, sheet ∈ project.sheets → ∀ scope config limit,
          ∀ x ∈ (Liveness.classify files project scope config limit).items,
            x.kind.isDeclaration = true → x.name ≠ n) := by
  have hplain : ∀ c ∈ (harvest Scope.outer (Place.ofRoot tree)).calls, '.' ∉ c.callee.toList := by
    intro c hc
    obtain ⟨q, hreads, hcalls⟩ :=
      (exists_harvest_call_iff (settled_ofRoot tree) c.callee).mp ⟨c, hc, rfl⟩
    exact plain q hreads.mem_places _ hcalls
  have hread : (∃ c ∈ distinctCalls (harvest Scope.outer (Place.ofRoot tree)).calls,
      c.callee = n) ↔ Mentions (Place.ofRoot tree) n := by
    rw [exists_distinctCalls_iff hplain, exists_harvest_call_iff (settled_ofRoot tree)]
  refine ⟨fun _ _ _ => hread, ?_⟩
  intro hmentions path language bytes sheet hparse files project hsheet scope config limit x hx
    hkind
  obtain ⟨c, hc, rfl⟩ := hread.mpr hmentions
  rw [← calls_of_parse hparse] at hc
  exact (Liveness.not_called_of_mem_classify hx hkind hsheet hc).symm

def part (label field text : String) (row : Nat) (children : List Node) : Node :=
  ⟨label, true, false, false, field, text, row, row, children⟩

def sign (text : String) (row : Nat) : Node := ⟨text, false, false, false, "", text, row, row, []⟩

def emptyBlock (label : String) (row : Nat) : Node :=
  part label "body" "\x7b\x7d" row [sign "\x7b" row, sign "\x7d" row]

/-- The function `mixin` with one more statement below it. -/
def mixinTree (text : String) (statement : Node) : Node :=
  part "program" "" ("function mixin() \x7b\x7d\n" ++ text) 0
    [part "function_declaration" "" "function mixin() \x7b\x7d" 0
      [sign "function" 0, part "identifier" "name" "mixin" 0 [],
        part "formal_parameters" "parameters" "()" 0 [sign "(" 0, sign ")" 0],
        emptyBlock "statement_block" 0],
      statement]

def mixinCall : Node :=
  part "call_expression" "" "mixin()" 1
    [part "identifier" "function" "mixin" 1 [],
      part "arguments" "arguments" "()" 1 [sign "(" 1, sign ")" 1]]

def callTree : Node :=
  mixinTree "mixin()" (part "expression_statement" "" "mixin()" 1 [mixinCall])

theorem gather_calls_read_callTree :
    PlainNames callTree ∧ (∃ q, Reads (Place.ofRoot callTree) q ∧ Calls q "mixin")
      ∧ ∀ path language lineCount,
        ∃ c ∈ (gather path language lineCount callTree).calls, c.callee = "mixin" := by
  have hplain : PlainNames callTree := by decide +kernel
  have hread : Mentions (Place.ofRoot callTree) "mixin" :=
    (exists_harvest_call_iff (settled_ofRoot callTree) _).mp (by decide +kernel)
  exact ⟨hplain, hread, fun _ _ _ => ((gather_calls_read callTree hplain _).1 _ _ _).mpr hread⟩

/-- The class `A` that extends the value of `mixin()`. -/
def heritageTree : Node :=
  mixinTree "class A extends mixin() \x7b\x7d"
    (part "class_declaration" "" "class A extends mixin() \x7b\x7d" 1
      [sign "class" 1, part "identifier" "name" "A" 1 [],
        part "class_heritage" "" "extends mixin()" 1 [sign "extends" 1, mixinCall],
        emptyBlock "class_body" 1])

/-- A bare call in the heritage of a class is lost, and the called function reported as dead. -/
theorem heritage_call_unread :
    heritageTree.hasError = false ∧ (∃ q ∈ heritageTree.places, CallsBare q "mixin")
      ∧ (∀ path language lineCount,
        ¬∃ c ∈ (gather path language lineCount heritageTree).calls, c.callee = "mixin")
      ∧ ∃ sheet, parse "/app/a.js" .javaScript ByteArray.empty (some heritageTree) = .ok sheet ∧
        ⟨.function, "mixin", none, ⟨false, ["a.js"]⟩, 1⟩ ∈
          (Liveness.classify ⟨.dir []⟩ ⟨⟨true, ["app"]⟩, [sheet]⟩ ⟨true, ["app"]⟩
            ⟨[], [], "js", 50⟩ 50).items := by
  have hnone : distinctCalls (harvest Scope.outer (Place.ofRoot heritageTree)).calls = [] := by
    decide +kernel
  refine ⟨by decide +kernel, by decide +kernel, ?_, _, rfl, ?_⟩
  · rintro path language lineCount ⟨c, hc, -⟩
    change c ∈ distinctCalls _ at hc
    rw [hnone] at hc
    simp at hc
  · rw [Liveness.classify_items (by rw [Liveness.classify_total]; decide +kernel),
      Liveness.deadItems_perm.mem_iff]
    decide +kernel

end ScriptSurvey.Extraction
