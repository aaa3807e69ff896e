import Flowplan.Proofs.Plan.Bodies
import Flowplan.Proofs.Plan.Compiled
import Flowplan.Proofs.Plan.Recursion

namespace Flowplan

namespace Plan

mutual

def height : List Module → Nat
  | [] => 0
  | m :: rest => max (heightOf m) (height rest)
termination_by structural ms => ms

def heightOf : Module → Nat
  | .mk _ body _ => heightBody body
termination_by structural m => m

def heightBody : Body → Nat
  | .script _ _ => 0
  | .pause _ => 0
  | .branch cases => heightCases cases + 1
  | .loop _ body _ _ => height body + 1
termination_by structural b => b

def heightCases : List Case → Nat
  | [] => 0
  | c :: rest => max (heightCase c) (heightCases rest)
termination_by structural cs => cs

def heightCase : Case → Nat
  | .mk _ body => height body
termination_by structural c => c

end

def depth (plan : Plan) : Nat := height (plan.modules ++ plan.failure.toList)

theorem height_le_iff {ms : List Module} {n : Nat} : height ms ≤ n ↔ ∀ m ∈ ms, heightOf m ≤ n := by
  induction ms with
  | nil => simp [height]
  | cons m rest ih => simp [height, ih]

theorem heightCases_le_iff {cases : List Case} {n : Nat} :
    heightCases cases ≤ n ↔ ∀ case ∈ cases, height case.body ≤ n := by
  induction cases with
  | nil => simp [heightCases]
  | cons case rest ih =>
    obtain ⟨expr, body⟩ := case
    simp [heightCases, heightCase, Case.body, ih]

/-- A module lies in a list of modules inside others, the outermost first. -/
inductive Lies : List Module → List Module → Module → Prop
  | here {ms m} : m ∈ ms → Lies ms [] m
  | inside {ms outer body outers m} : outer ∈ ms → body ∈ outer.bodies → Lies body outers m →
      Lies ms (outer :: outers) m

end Plan

namespace Compile

variable {c : Context} {scope : List Node} {construct node : Node} {slot : Slot} {path : List Slot}
  {depth : Nat} {ms outers : List Module} {m : Module}

theorem Stands.ids_subset (h : Stands c scope path node) :
    path.map Slot.owner ++ [node.id] ⊆ scope.map Node.id := by
  induction h with
  | here hfree => simpa using ⟨_, hfree.1, rfl⟩
  | inside hfree hslot _ ih =>
    refine List.cons_subset.mpr ⟨owner_of_mem_slots hslot ▸ List.mem_map_of_mem hfree.1, ?_⟩
    exact List.Subset.trans ih ((within_sublist _ _).map Node.id).subset

theorem Stands.nodup_ids (h : Stands c scope path node) :
    (path.map Slot.owner ++ [node.id]).Nodup := by
  induction h with
  | here _ => simp
  | @inside scope _ slot path node _ _ h ih =>
    refine List.nodup_cons.mpr ⟨fun howner => ?_, ih⟩
    -- whatever stands in a body is one of its steps, and its construct is not
    obtain ⟨inner, hinner, hid⟩ := List.mem_map.mp (h.ids_subset howner)
    exact owner_notMem_steps c slot (hid ▸ (mem_within.mp hinner).2)

theorem Compiles.exists_path (h : Compiles c scope ms) (hlies : Plan.Lies ms outers m) :
    ∃ path node, Stands c scope path node ∧
      outers.map Module.id = path.map (fun slot => ModuleId.ofId slot.owner) ∧
      Built c (fun slot body =>
        Compiles c (within (scopeAt c scope path) (slot.steps c)) body) node m := by
  induction hlies generalizing scope with
  | here hm =>
    obtain ⟨node, hfree, _, hbuilt⟩ := h.exists_step hm
    exact ⟨[], node, .here hfree, rfl, hbuilt⟩
  | inside houter hbody _ ih =>
    obtain ⟨construct, hfree, _, hbuilt⟩ := h.exists_step houter
    obtain ⟨slot, hslot, hcompiles⟩ := hbuilt.exists_slot hbody
    obtain ⟨path, node, hstands, houters, hinner⟩ := ih hcompiles
    refine ⟨slot :: path, node, .inside hfree hslot hstands, ?_, hinner⟩
    rw [List.map_cons, List.map_cons, houters, hbuilt.id_eq, owner_of_mem_slots hslot]

def isConstruct (node : Node) : Bool :=
  node.kind == StepType.condition || node.kind == StepType.forEach

def constructIds (nodes : List Node) : Finset String := idsWhere isConstruct nodes

theorem isConstruct_of_mem_slots (h : slot ∈ slots c node) : isConstruct node = true := by
  simpa [isConstruct] using kind_of_mem_slots h

theorem heightOf_stepModule {registry : Registry} {ids : List String}
    (h : stepModule registry ids node = .ok (some m)) : Plan.heightOf m = 0 := by
  rcases stepModule_eq_ok h with ⟨_, _, _, hm⟩ | ⟨_, _, _, _, hm⟩ | ⟨_, _, _, hm⟩
  · obtain rfl := Option.some.inj hm
    rfl
  · obtain rfl := Option.some.inj hm
    rfl
  · cases hm

theorem heightOf_le_of_moduleOf (hbodies : ∀ body ms, modules c depth body = .ok ms →
      Plan.height ms ≤ (constructIds body).card)
    (hnode : node ∈ scope) (h : moduleOf c depth scope node = .ok (some m)) :
    Plan.heightOf m ≤ (constructIds scope).card := by
  have hbody : ∀ slot ∈ slots c node, ∀ ms, modules c depth (within scope (slot.steps c)) = .ok ms →
      Plan.height ms < (constructIds scope).card := by
    intro slot hslot ms hms
    have hfewer := idsWhere_within_ssubset hnode (isConstruct_of_mem_slots hslot) hslot
    exact (hbodies _ _ hms).trans_lt (Finset.card_lt_card hfewer)
  by_cases hcondition : node.kind = StepType.condition
  · obtain ⟨cases, directives, hm, hcases⟩ := moduleOf_condition hcondition h
    obtain rfl := Option.some.inj hm
    -- a condition without branches has no body to be counted by, but it counts itself
    have hid : node.id ∈ constructIds scope :=
      mem_idsWhere.mpr ⟨node, hnode, by simp [isConstruct, hcondition], rfl⟩
    have hpositive : 0 < (constructIds scope).card := Finset.card_pos.mpr ⟨_, hid⟩
    have hheight : Plan.heightCases cases ≤ (constructIds scope).card - 1 := by
      refine Plan.heightCases_le_iff.mpr fun case hcase => Nat.le_sub_one_of_lt ?_
      obtain ⟨expr, hexpr, _, hms⟩ := exists_left_of_mem hcases hcase
      exact hbody (.branch node.id expr) (slots_condition hcondition ▸ List.mem_map_of_mem hexpr)
        _ hms
    rw [Plan.heightOf, Plan.heightBody]
    omega
  · by_cases hloop : node.kind = StepType.forEach
    · obtain ⟨body, directives, hm, hms⟩ := moduleOf_forEach hloop h
      obtain rfl := Option.some.inj hm
      exact hbody (.loop node.id) (by simp [slots_forEach hloop]) body hms
    · rw [heightOf_stepModule (moduleOf_step hcondition hloop ▸ h)]
      exact Nat.zero_le _

theorem height_le_card_constructIds (h : modules c depth scope = .ok ms) :
    Plan.height ms ≤ (constructIds scope).card := by
  induction depth generalizing scope ms with
  | zero =>
    cases h
    exact Nat.zero_le _
  | succ depth ih =>
    obtain ⟨found, hfound, rfl⟩ := modules_succ_eq_ok.mp h
    refine Plan.height_le_iff.mpr fun m hm => ?_
    have hsome : some m ∈ found := by simpa using hm
    obtain ⟨node, hnode, hmodule⟩ := exists_left_of_mem hfound hsome
    exact heightOf_le_of_moduleOf (fun _ _ => ih) (mem_unclaimed.mp hnode).1 hmodule

end Compile

namespace Graph

open Compile

variable {registry : Registry} {graph : Graph} {name : String} {plan : Plan}

theorem depth_le_card_constructIds (h : graph.compile registry name = .ok plan) :
    plan.depth ≤ (constructIds graph.nodes).card := by
  obtain ⟨hmodules, hfailure⟩ := compile_eq_ok h
  have hmain : constructIds graph.mainOrder ⊆ constructIds graph.nodes :=
    idsWhere_mono fun node hnode =>
      mem_of_mem_topologicalOrder ((mainOrder_sublist graph).subset hnode)
  refine Plan.height_le_iff.mpr fun m hm => ?_
  rcases List.mem_append.mp hm with hm | hm
  · have hheight := (height_le_card_constructIds hmodules).trans (Finset.card_le_card hmain)
    exact Plan.height_le_iff.mp hheight m hm
  · -- the failure module is a script
    rcases hfailure with ⟨node, _, hfailure⟩ | ⟨_, hfailure⟩
    · rcases failureModule_eq_ok hfailure with hnone | ⟨_, _, _, hsome⟩
      · simp [hnone] at hm
      · obtain rfl : m = _ := by simpa [hsome] using hm
        exact Nat.zero_le _
    · simp [hfailure] at hm

structure Grounded (registry : Registry) (graph : Graph) : Prop where
  fewer : ∀ scope body, Enters (graph.compileContext registry) scope body →
    body.length < scope.length ∧ (body.map Node.id).toFinset ⊂ (scope.map Node.id).toFinset
  ends : WellFounded fun body scope => Enters (graph.compileContext registry) scope body
  /-- The recursion has one solution, and it is what is found with
  depth enough for the steps of a scope. -/
  solved : ∃! build, Recurs (graph.compileContext registry) build
  found : ∀ build, Recurs (graph.compileContext registry) build → ∀ depth scope,
    scope.length ≤ depth →
    modules (graph.compileContext registry) depth scope = build scope
  apart : ∀ path node, graph.Stands registry path node → (path.map Slot.owner ++ [node.id]).Nodup
  nested : ∀ name plan, graph.compile registry name = .ok plan → ∀ outers m,
    Plan.Lies plan.modules outers m →
    ∃ path node, graph.Stands registry path node ∧
      outers.map Module.id = path.map (fun slot => ModuleId.ofId slot.owner) ∧
      Built (graph.compileContext registry)
        (fun slot body => Compiles (graph.compileContext registry)
        (within (scopeAt (graph.compileContext registry) graph.mainOrder path)
          (slot.steps (graph.compileContext registry))) body) node m
  depth : ∀ name plan, graph.compile registry name = .ok plan →
    plan.depth ≤ (constructIds graph.nodes).card

/-- Compiling comes to an end on every graph, and nothing is put inside itself. -/
theorem grounded (registry : Registry) (graph : Graph) : graph.Grounded registry where
  fewer _ _ hbody := ⟨hbody.length_lt, hbody.ids_ssubset⟩
  ends := wellFounded_enters _
  solved := ⟨_, recurs_modules _, fun _ hbuild => hbuild.unique (recurs_modules _)⟩
  found _ hbuild _ _ hdepth := hbuild.eq_modules hdepth
  apart _ _ hstands := hstands.nodup_ids
  nested _ _ hcompile _ _ hlies :=
    Compiles.exists_path ⟨_, Nat.le_refl _, (compile_eq_ok hcompile).1⟩ hlies
  depth _ _ hcompile := depth_le_card_constructIds hcompile

def brokenNesting : Graph where
  nodes := [
    .bare "check" StepType.condition, .bare "each" StepType.forEach, .bare "send" "http.call",
    .bare "send" "http.call", .bare "wait" StepType.wait, .bare "again" StepType.wait]
  edges := [
    ⟨"check", "each", some "flow_input.a"⟩, ⟨"each", "send", none⟩, ⟨"each", "nowhere", none⟩,
    ⟨"wait", "again", none⟩, ⟨"again", "wait", none⟩]
  onError := none

example : (brokenNesting.compile .builtIn "x").map Plan.depth = .ok 2 ∧
    (constructIds brokenNesting.nodes).card = 2 := by
  constructor <;> rfl

end Graph

end Flowplan
