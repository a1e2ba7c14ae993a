import Mathlib.Data.List.Induction
import Mathlib.Tactic.Common
import ScriptSurvey.Tools.Server

/-!
# Kept graphs

A server keeps one graph. The graph that an answer is about was built from the files of that call or
of an earlier one, and since then no call has dropped the graph of the project or kept that of
another project in its place. While the files stay the same, it is as if every call built its graph.
-/
namespace ScriptSurvey

lemma GraphCache.get?_eq_some {cache : GraphCache} {root : Path} {g : SymbolGraph} :
    cache.get? root = some g ↔ cache.slot = some (root, g) := by
  rw [get?, Option.map_eq_some_iff]
  simp only [Option.filter_eq_some_iff, beq_iff_eq]
  constructor
  · rintro ⟨⟨_, _⟩, ⟨hslot, rfl⟩, rfl⟩
    exact hslot
  · exact fun hslot => ⟨(root, g), ⟨hslot, rfl⟩, rfl⟩

lemma GraphCache.holds_eq_false {cache : GraphCache} {named : Option Path} :
    cache.holds named = false ↔
      ∀ root g, cache.slot = some (root, g) → ∃ other, named = some other ∧ other ≠ root := by
  obtain ⟨_ | ⟨root, g⟩⟩ := cache <;> cases named <;> simp [holds]

namespace Tools

/-- A request, with the files as they are then. -/
structure Call where
  files : FileSystem
  request : Request

def Tool.aboutGraph? : Tool → Option (SymbolGraph → Except String String)
  | .getGraph maxEdges => some fun g => .ok (Server.graphText maxEdges g)
  | .lookupSymbol symbol => some (Server.lookupText symbol)
  | _ => none

namespace Server

def buildGraph (files : FileSystem) (root : Path) : Except String SymbolGraph := do
  let g ← (Survey.graph files (Config.load files root) root).mapError Survey.Error.message
  if g.nodes.isEmpty && g.orphans.isEmpty then throw (noSources root)
  return g

/-- The graph that the server keeps for a project, or a new one. -/
def graphOf (server : Server) (files : FileSystem) (root : Path) : Except String SymbolGraph :=
  match server.cache.get? root with
  | some g => .ok g
  | none => buildGraph files root

def keep (server : Server) (root : Path) (g : SymbolGraph) : Server :=
  { server with cache := server.cache.insert root g }

def forget (server : Server) : Server := { server with cache := GraphCache.empty }

section

variable {server other : Server} {files : FileSystem} {request : Request} {root : Path}
  {g : SymbolGraph} {reply : SymbolGraph → Except String String}

@[simp]
lemma slot_keep : (server.keep root g).cache.slot = some (root, g) := rfl

@[simp]
lemma forget_keep : (server.keep root g).forget = server.forget := rfl

@[simp]
lemma forget_forget : server.forget.forget = server.forget := rfl

lemma projectRoot_congr (h : server.forget = other.forget) :
    server.projectRoot = other.projectRoot := by
  change server.forget.projectRoot = other.forget.projectRoot
  rw [h]

lemma graphOf_eq_ok : server.graphOf files root = .ok g ↔
    server.cache.slot = some (root, g) ∨
      server.cache.get? root = none ∧ buildGraph files root = .ok g := by
  rw [graphOf, ← GraphCache.get?_eq_some]
  cases server.cache.get? root <;> simp

lemma graphOf_of_empty (h : server.cache = GraphCache.empty) :
    server.graphOf files root = buildGraph files root := by
  rw [graphOf, h]
  rfl

lemma keep_eq_self (h : server.cache.slot = some (root, g)) : server.keep root g = server := by
  obtain ⟨_, _, _, ⟨_⟩⟩ := server
  subst h
  rfl

/-- A graph that is asked for is kept, also when it was kept before. -/
lemma graph_eq (server : Server) (files : FileSystem) (project : Option String) :
    server.graph files project = do
      let root ← server.projectRoot files project
      let g ← server.graphOf files root
      return (g, server.keep root g) := by
  rw [graph]
  cases server.projectRoot files project with
  | error message => rfl
  | ok root =>
    simp only [bind, Except.bind, graphOf]
    cases hkept : server.cache.get? root with
    | some g => simp only [keep_eq_self (GraphCache.get?_eq_some.mp hkept)]
    | none =>
      rw [buildGraph]
      cases (Survey.graph files (Config.load files root) root).mapError Survey.Error.message with
      | error message => rfl
      | ok g =>
        simp only [bind, Except.bind]
        split_ifs <;> rfl

lemma answer_eq_aboutGraph (h : request.tool.aboutGraph? = some reply) :
    server.answer files request = server.aboutGraph files request.project reply := by
  obtain ⟨project, tool⟩ := request
  cases tool with
  | getGraph | lookupSymbol =>
    rw [← Option.some.inj h]
    rfl
  | _ => exact nomatch h

lemma reply_answer (h : request.tool.aboutGraph? = some reply) :
    (server.answer files request).reply = replyOf (do
      let root ← server.projectRoot files request.project
      let g ← server.graphOf files root
      reply g) := by
  rw [answer_eq_aboutGraph h, aboutGraph, graph_eq]
  cases server.projectRoot files request.project with
  | error message => rfl
  | ok root =>
    simp only [bind, Except.bind]
    cases server.graphOf files root <;> rfl

/-! ## What one call does -/

def namedRoot (server : Server) (files : FileSystem) (project : Option String) :
    Except String (Option Path) :=
  match project with
  | some path => (server.projectRoot files (some path)).map some
  | none => .ok none

/-- A call that leaves the server without the graph of the project at `root`: it drops the graph,
naming that project or none, or it gets the graph of another project. -/
inductive Forgets (server : Server) (call : Call) (root : Path) : Prop
  | invalidated (tool : call.request.tool = .invalidateGraph)
      (named : server.namedRoot call.files call.request.project = .ok none ∨
        server.namedRoot call.files call.request.project = .ok (some root))
  | superseded (reply : SymbolGraph → Except String String)
      (tool : call.request.tool.aboutGraph? = some reply) (other : Path) (ne : other ≠ root)
      (named : server.projectRoot call.files call.request.project = .ok other) (g : SymbolGraph)
      (got : server.graphOf call.files other = .ok g)

lemma forgets_iff_of_aboutGraph (h : request.tool.aboutGraph? = some reply) :
    server.Forgets ⟨files, request⟩ root ↔
      ∃ other g, other ≠ root ∧ server.projectRoot files request.project = .ok other ∧
        server.graphOf files other = .ok g := by
  constructor
  · rintro (⟨htool, -⟩ | ⟨-, -, other, hne, hnamed, g, hgot⟩)
    · rw [show request.tool = _ from htool] at h
      cases h
    · exact ⟨other, g, hne, hnamed, hgot⟩
  · rintro ⟨other, g, hne, hnamed, hgot⟩
    exact .superseded reply h other hne hnamed g hgot

/-- A call about the graph keeps the one that it gets; when it gets none the server stays as it
is. -/
lemma server_answer_of_aboutGraph (server : Server) (files : FileSystem)
    (h : request.tool.aboutGraph? = some reply) :
    (∃ root g, server.projectRoot files request.project = .ok root ∧
      server.graphOf files root = .ok g ∧
      (server.answer files request).server = server.keep root g) ∨
    (∀ root g, server.projectRoot files request.project = .ok root →
      server.graphOf files root ≠ .ok g) ∧ (server.answer files request).server = server := by
  rw [answer_eq_aboutGraph h, aboutGraph, graph_eq]
  cases hroot : server.projectRoot files request.project with
  | error message => exact Or.inr ⟨nofun, rfl⟩
  | ok root =>
    simp only [bind, Except.bind]
    cases hgraph : server.graphOf files root with
    | error message =>
      refine Or.inr ⟨fun other g hother => ?_, rfl⟩
      obtain rfl := Except.ok.inj hother
      simp [hgraph]
    | ok g => exact Or.inl ⟨root, g, rfl, hgraph, rfl⟩

lemma server_answer_of_invalidate (h : request.tool = .invalidateGraph) :
    (server.answer files request).server =
      match server.namedRoot files request.project with
      | .ok named => if server.cache.holds named then server.forget else server
      | .error _ => server := by
  obtain ⟨project, tool⟩ := request
  subst h
  have hdropped : ∀ named, { server with cache := (server.cache.invalidate named).2 } =
      if server.cache.holds named then server.forget else server := fun named => by
    rw [GraphCache.invalidate]
    split_ifs <;> rfl
  cases project with
  | none => exact hdropped none
  | some path =>
    simp only [answer, invalidate, namedRoot]
    cases server.projectRoot files (some path) with
    | error message => rfl
    | ok root => exact hdropped (some root)

lemma server_answer_of_other (h : request.tool.aboutGraph? = none)
    (htool : request.tool ≠ .invalidateGraph) : (server.answer files request).server = server := by
  obtain ⟨project, tool⟩ := request
  cases tool with
  | getGraph | lookupSymbol => cases h
  | invalidateGraph => exact absurd rfl htool
  | _ => rfl

/-- A call changes no more of the server than the graph that it keeps. -/
lemma forget_answer (server : Server) (files : FileSystem) (request : Request) :
    (server.answer files request).server.forget = server.forget := by
  cases habout : request.tool.aboutGraph? with
  | some reply =>
    obtain ⟨root, g, -, -, hserver⟩ | ⟨-, hserver⟩ :=
      server_answer_of_aboutGraph server files habout
    all_goals rw [hserver]
    rw [forget_keep]
  | none =>
    by_cases htool : request.tool = .invalidateGraph
    · rw [server_answer_of_invalidate htool]
      split
      · split_ifs
        · exact forget_forget
        · rfl
      · rfl
    · rw [server_answer_of_other habout htool]

lemma slot_answer_of_aboutGraph (h : request.tool.aboutGraph? = some reply)
    (hslot : (server.answer files request).server.cache.slot = some (root, g)) :
    ¬ server.Forgets ⟨files, request⟩ root ∧
      (server.cache.slot = some (root, g) ∨ buildGraph files root = .ok g) := by
  rw [forgets_iff_of_aboutGraph h]
  obtain ⟨kept, graph, hroot, hgraph, hserver⟩ | ⟨hnone, hserver⟩ :=
    server_answer_of_aboutGraph server files h
  · rw [hserver, slot_keep] at hslot
    cases hslot
    refine ⟨?_, (graphOf_eq_ok.mp hgraph).imp_right And.right⟩
    rintro ⟨other, -, hne, hnamed, -⟩
    exact hne (Except.ok.inj (hnamed.symm.trans hroot))
  · rw [hserver] at hslot
    refine ⟨?_, Or.inl hslot⟩
    rintro ⟨other, graph, -, hnamed, hgot⟩
    exact hnone other graph hnamed hgot

lemma slot_answer_of_invalidate (h : request.tool = .invalidateGraph)
    (hslot : (server.answer files request).server.cache.slot = some (root, g)) :
    ¬ server.Forgets ⟨files, request⟩ root ∧ server.cache.slot = some (root, g) := by
  have hnamed : server.Forgets ⟨files, request⟩ root →
      server.namedRoot files request.project = .ok none ∨
        server.namedRoot files request.project = .ok (some root) := by
    rintro (⟨-, hnamed⟩ | ⟨_, htool, _⟩)
    · exact hnamed
    · rw [show request.tool = _ from h] at htool
      cases htool
  rw [server_answer_of_invalidate h] at hslot
  cases hroot : server.namedRoot files request.project with
  | error message =>
    rw [hroot] at hslot hnamed
    exact ⟨fun hforgets => by simpa using hnamed hforgets, hslot⟩
  | ok named =>
    rw [hroot] at hslot hnamed
    dsimp only at hslot
    split_ifs at hslot with hholds
    · cases hslot
    · rw [Bool.not_eq_true, GraphCache.holds_eq_false] at hholds
      obtain ⟨other, rfl, hne⟩ := hholds root g hslot
      exact ⟨fun hforgets => by simpa [hne] using hnamed hforgets, hslot⟩

/-- A graph that is kept after a call was kept before it or is built from the files of the call, and
the call does not forget it. -/
lemma slot_answer {call : Call}
    (hslot : (server.answer call.files call.request).server.cache.slot = some (root, g)) :
    ¬ server.Forgets call root ∧
      (server.cache.slot = some (root, g) ∨ buildGraph call.files root = .ok g) := by
  obtain ⟨files, request⟩ := call
  cases habout : request.tool.aboutGraph? with
  | some reply => exact slot_answer_of_aboutGraph habout hslot
  | none =>
    by_cases htool : request.tool = .invalidateGraph
    · exact (slot_answer_of_invalidate htool hslot).imp_right Or.inl
    · refine ⟨?_, Or.inl ?_⟩
      · rintro (⟨h, -⟩ | ⟨_, h, _⟩)
        · exact htool h
        · rw [show request.tool.aboutGraph? = _ from h] at habout
          cases habout
      · rwa [server_answer_of_other habout htool] at hslot

/-! ## Runs -/

def after (server : Server) (calls : List Call) : Server :=
  calls.foldl (fun s call => (s.answer call.files call.request).server) server

def afterForgetting (server : Server) (calls : List Call) : Server :=
  calls.foldl (fun s call => (s.answer call.files call.request).server.forget) server

/-- All calls of a run that forget the graph of the project at `root` come before the place `j`. -/
def ForgottenBefore (server : Server) (calls : List Call) (root : Path) (j : Nat) : Prop :=
  ∀ k call, calls[k]? = some call → (server.after (calls.take k)).Forgets call root → k < j

variable {calls : List Call}

lemma after_append_singleton (server : Server) (calls : List Call) (call : Call) :
    server.after (calls ++ [call]) =
      ((server.after calls).answer call.files call.request).server := by
  simp [after]

lemma forget_after (server : Server) (calls : List Call) :
    (server.after calls).forget = server.forget := by
  induction calls using List.reverseRecOn with
  | nil => rfl
  | append_singleton calls call ih => rw [after_append_singleton, forget_answer, ih]

lemma afterForgetting_eq_self (h : server.forget = server) (calls : List Call) :
    server.afterForgetting calls = server := by
  induction calls with
  | nil => rfl
  | cons call calls ih =>
    rw [afterForgetting, List.foldl_cons, forget_answer, h]
    exact ih

lemma ForgottenBefore.append_singleton {call : Call} {j : Nat}
    (h : server.ForgottenBefore calls root j)
    (hcall : (server.after calls).Forgets call root → calls.length < j) :
    server.ForgottenBefore (calls ++ [call]) root j := by
  intro k c hc
  rcases Nat.lt_or_ge k calls.length with hlt | hge
  · rw [List.getElem?_append_left hlt] at hc
    rw [List.take_append_of_le_length (Nat.le_of_lt hlt)]
    exact h k c hc
  · obtain ⟨hlast, -⟩ := List.getElem?_eq_some_iff.mp hc
    obtain rfl : k = calls.length := by simp at hlast; omega
    obtain rfl : call = c := by simpa using hc
    simpa using hcall

lemma forgottenBefore_length (server : Server) (calls : List Call) (root : Path) :
    server.ForgottenBefore calls root calls.length :=
  fun _ _ hcall _ => (List.getElem?_eq_some_iff.mp hcall).1

/-- By induction on the run: the graph that is kept was built from the files at one of its calls,
and no call from there on forgets it. -/
lemma exists_source_of_slot (hempty : server.cache = GraphCache.empty)
    (hslot : (server.after calls).cache.slot = some (root, g)) :
    ∃ j source, calls[j]? = some source ∧ buildGraph source.files root = .ok g ∧
      server.ForgottenBefore calls root j := by
  induction calls using List.reverseRecOn with
  | nil => simp [after, hempty, GraphCache.empty] at hslot
  | append_singleton calls call ih =>
    rw [after_append_singleton] at hslot
    obtain ⟨hnot, hkept | hbuilt⟩ := slot_answer hslot
    · obtain ⟨j, source, hsource, hbuilt, hbefore⟩ := ih hkept
      have hlt : j < calls.length := (List.getElem?_eq_some_iff.mp hsource).1
      refine ⟨j, source, ?_, hbuilt, hbefore.append_singleton (absurd · hnot)⟩
      rwa [List.getElem?_append_left hlt]
    · have hbefore := forgottenBefore_length server calls root
      exact ⟨calls.length, call, by simp, hbuilt, hbefore.append_singleton (absurd · hnot)⟩

/-- The graph that an answer is about, at the end of a run that began without one. -/
lemma exists_source_of_graphOf (hempty : server.cache = GraphCache.empty) (calls : List Call)
    (call : Call) (root : Path) :
    ∃ j source, (calls ++ [call])[j]? = some source ∧
      (server.after calls).graphOf call.files root = buildGraph source.files root ∧
      server.ForgottenBefore calls root j := by
  cases hkept : (server.after calls).cache.get? root with
  | some g =>
    obtain ⟨j, source, hsource, hbuilt, hbefore⟩ :=
      exists_source_of_slot hempty (GraphCache.get?_eq_some.mp hkept)
    refine ⟨j, source, ?_, ?_, hbefore⟩
    · rwa [List.getElem?_append_left (List.getElem?_eq_some_iff.mp hsource).1]
    · rw [graphOf, hkept, hbuilt]
  | none =>
    refine ⟨calls.length, call, by simp, ?_, forgottenBefore_length server calls root⟩
    rw [graphOf, hkept]

end

/-- After every run: while the files stay the same, a call about a graph is answered as it is by a
server that builds the graph each time. If files change, the graph of a project is that of the files
at this call or at an earlier one, which comes after all calls that forget the graph. -/
theorem graph_answer_source (start : FileSystem) (workDir root : String) (calls : List Call)
    (call : Call) {reply : SymbolGraph → Except String String}
    (htool : call.request.tool.aboutGraph? = some reply) :
    let first := Server.create start workDir root
    let answered := ((first.after calls).answer call.files call.request).reply
    ((∀ c ∈ calls, c.files = call.files) →
      answered = ((first.afterForgetting calls).answer call.files call.request).reply) ∧
    ∀ place, first.projectRoot call.files call.request.project = .ok place →
      ∃ j source, (calls ++ [call])[j]? = some source ∧
        answered = replyOf (buildGraph source.files place >>= reply) ∧
        first.ForgottenBefore calls place j := by
  intro first answered
  have hempty : first.cache = GraphCache.empty := rfl
  have hsource := exists_source_of_graphOf hempty calls call
  have hroot : (first.after calls).projectRoot = first.projectRoot :=
    projectRoot_congr (forget_after first calls)
  have hanswered : answered = replyOf (do
      let place ← first.projectRoot call.files call.request.project
      let g ← (first.after calls).graphOf call.files place
      reply g) := by
    rw [← hroot]
    exact reply_answer htool
  constructor
  · intro hfiles
    have hsame : ∀ c ∈ calls ++ [call], c.files = call.files := by
      simpa [or_imp, forall_and] using hfiles
    have hgraph : ∀ place, (first.after calls).graphOf call.files place =
        first.graphOf call.files place := by
      intro place
      obtain ⟨j, source, hj, hgraph, -⟩ := hsource place
      rw [hgraph, hsame source (List.mem_of_getElem? hj), graphOf_of_empty hempty]
    rw [afterForgetting_eq_self rfl, reply_answer htool, hanswered]
    simp only [hgraph]
  · intro place hplace
    obtain ⟨j, source, hj, hgraph, hbefore⟩ := hsource place
    refine ⟨j, source, hj, ?_, hbefore⟩
    rw [hanswered, hplace]
    exact congrArg (fun g => replyOf (g >>= reply)) hgraph

def functionFiles (name : String) : FileSystem :=
  let text := "function " ++ name ++ "() \x7b\x7d"
  ⟨.dir [("app", .dir [("package.json", .file (.ofText "\x7b\x7d")),
    ("index.js", .file (.ofText text))])]⟩

/-- A function is renamed after its graph was kept. Once the graph is dropped the new name is found;
before the function is renamed the kept graph makes no difference. -/
theorem graph_answer_source_renamed :
    let first := Server.create (functionFiles "alpha") "/" "/app"
    let lookup : Request := ⟨none, .lookupSymbol "gamma"⟩
    let kept : Call := ⟨functionFiles "alpha", ⟨none, .getGraph none⟩⟩
    let dropped : Call := ⟨functionFiles "gamma", ⟨none, .invalidateGraph⟩⟩
    ((first.after [kept, dropped]).answer (functionFiles "gamma") lookup).reply =
        ⟨false, "ga gamma index.js:1\ncallers -\ncallees -\nhint: get_graph"⟩ ∧
      ((first.after [kept]).answer (functionFiles "alpha") lookup).reply =
        ((first.afterForgetting [kept]).answer (functionFiles "alpha") lookup).reply := by
  intro first lookup kept dropped
  obtain ⟨-, hsource⟩ := graph_answer_source (functionFiles "alpha") "/" "/app" [kept, dropped]
    ⟨functionFiles "gamma", lookup⟩ rfl
  obtain ⟨hsame, -⟩ := graph_answer_source (functionFiles "alpha") "/" "/app" [kept]
    ⟨functionFiles "alpha", lookup⟩ rfl
  refine ⟨?_, hsame (by simp [kept])⟩
  obtain ⟨j, source, hj, hreply, hbefore⟩ := hsource ⟨true, ["app"]⟩ (by decide +kernel)
  have hlt : 1 < j := hbefore 1 dropped rfl (.invalidated rfl (Or.inl rfl))
  obtain ⟨hle, -⟩ := List.getElem?_eq_some_iff.mp hj
  obtain rfl : j = 2 := by simp at hle; omega
  obtain rfl := Option.some.inj hj
  rw [hreply]
  decide +kernel

end Server

end Tools

end ScriptSurvey
