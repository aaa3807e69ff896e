import Flowplan.Plan.Compile
import Flowplan.Proofs.Graph.Alike

/-!
# Parameters of alike steps

The names of the parameters of a script do not depend on the order in which a step has its
configuration and its inputs, and neither do the parameters, except that the text of an object
expression lists what the dotted names of its root say in their order.
-/

namespace Flowplan

inductive Param.Alike : Param → Param → Prop
  | static {value other} : Json.Alike value other → Param.Alike (.static value) (.static other)
  | expr (text) : Param.Alike (.expr text) (.expr text)

namespace Params

variable {params others : Entries Param} {value other : Json} {name root : String}

theorem ofInput_alike (h : value.Alike other) : (ofInput value).Alike (ofInput other) := by
  cases h with
  | str s =>
    rw [ofInput]
    split
    · exact .expr _
    · exact .static (.str s)
  | null => exact .static .null
  | bool value => exact .static (.bool value)
  | int value => exact .static (.int value)
  | float value => exact .static (.float value)
  | arr hitems => exact .static (.arr hitems)
  | obj hmiddle hperm => exact .static (.obj hmiddle hperm)

def root? (name : String) : Option String :=
  match splitName name with
  | (root, some _) => some root
  | (_, none) => none

def roots (names : List String) : List String := names.filterMap root?

theorem mem_names_groupUnder {α : Type} {items : List (String × α)} :
    name ∈ (groupUnder items).names ↔ name ∈ Entries.names items :=
  (Entries.mem_names_foldl_put fun groups item => (groups.lookup item.1).getD [] ++ [item.2]).trans
    (by simp [Entries.names])

def dotted (params : Entries Param) : List (String × String × Param) :=
  params.filterMap fun (name, p) =>
    match splitName name with
    | (root, some path) => some (root, (path, p))
    | _ => none

theorem names_dotted (params : Entries Param) : (dotted params).map Prod.fst =
    roots params.names := by
  rw [dotted, roots, Entries.names, List.map_filterMap, List.filterMap_map]
  refine List.filterMap_congr fun entry _ => ?_
  obtain ⟨name, p⟩ := entry
  dsimp only [Function.comp]
  rw [root?]
  rcases splitName name with ⟨root, _ | path⟩ <;> rfl

def plain (params : Entries Param) : Entries Param := params.filter fun entry => !isDotted entry.1

def objects (params : Entries Param) : Entries Param :=
  (groupUnder (dotted params)).map fun group =>
    (group.1, objectOf (staticFields ((plain params).lookup group.1)) group.2)

theorem collapse_eq (params : Entries Param) :
    collapse params = (plain params).putAll (objects params) := rfl

theorem mem_names_plain :
    name ∈ (plain params).names ↔ name ∈ params.names ∧ isDotted name = false := by
  rw [← Bool.not_eq_true']
  exact Entries.mem_names_filter (fun name => !isDotted name) params name

theorem mem_names_objects : name ∈ (objects params).names ↔ name ∈ roots params.names := by
  have hnames : (objects params).names = (groupUnder (dotted params)).names := by
    rw [objects, Entries.names, List.map_map]
    rfl
  rw [hnames, mem_names_groupUnder, Entries.names, names_dotted]

theorem mem_names_collapse : name ∈ (collapse params).names ↔
    (name ∈ params.names ∧ isDotted name = false) ∨ name ∈ roots params.names := by
  rw [collapse_eq, Entries.mem_names_putAll, mem_names_plain, mem_names_objects]

theorem nodup_names_collapse (h : params.names.Nodup) : (collapse params).names.Nodup :=
  Entries.nodup_names_putAll (h.sublist (List.filter_sublist.map _))

theorem lookup_collapse (h : name ∉ roots params.names) : (collapse params).lookup name =
    if !isDotted name then params.lookup name else none := by
  rw [collapse_eq, Entries.lookup_putAll_of_notMem (mem_names_objects.not.mpr h)]
  exact Entries.lookup_filter (fun name => !isDotted name) params name

/-- Collapsing parameters that agree gives parameters that agree,
apart from the objects under the roots. -/
theorem agree_collapse (h : Entries.Agree Param.Alike (fun _ => False) params others) :
    Entries.Agree Param.Alike (· ∈ roots params.names) (collapse params) (collapse others) := by
  have hroots : ∀ name, name ∈ roots params.names ↔ name ∈ roots others.names :=
    fun name => (h.names.filterMap root?).mem_iff
  refine .of_mem_iff (nodup_names_collapse h.nodup) (nodup_names_collapse h.nodup_right)
    (fun name => ?_) fun name hname => ?_
  · rw [mem_names_collapse, mem_names_collapse, h.mem_names, hroots]
  · rw [lookup_collapse hname, lookup_collapse ((hroots name).not.mp hname)]
    split
    · exact h.lookup name not_false
    · exact .none

theorem agree_ofStep {config config' inputs inputs' : Entries Json}
    (hconfig : Entries.Agree Json.Alike (fun _ => False) config config')
    (hinputs : Entries.Agree Json.Alike (fun _ => False) inputs inputs') :
    Entries.Agree Param.Alike (fun name => name ∈ roots config.names ∨ name ∈ roots inputs.names)
      (ofStep config inputs) (ofStep config' inputs') := by
  have hnil : Entries.Agree Param.Alike (fun _ => False) [] [] :=
    .of_mem_iff .nil .nil (fun _ => Iff.rfl) fun _ _ => .none
  have hmerged := (hnil.putAll (hconfig.mapValues fun _ _ => .static)).putAll
    (hinputs.mapValues fun _ _ => ofInput_alike)
  refine (agree_collapse hmerged).mono fun name hname => ?_
  obtain ⟨other, hother, hroot⟩ := List.mem_filterMap.mp hname
  simp only [Entries.mem_names_putAll, Entries.names_mapValues] at hother
  rcases hother with (hnil | hconfig) | hinputs
  · exact absurd hnil List.not_mem_nil
  · exact .inl (List.mem_filterMap.mpr ⟨other, hconfig, hroot⟩)
  · exact .inr (List.mem_filterMap.mpr ⟨other, hinputs, hroot⟩)

end Params

def Node.roots (node : Node) : List String :=
  Params.roots (Entries.names node.config ++ Entries.names node.inputs)

namespace Compile

variable {node node' : Node} {params others : Entries Param} {exempt : String → Prop}

theorem agree_inject (fields : Entries String)
    (h : Entries.Agree Param.Alike exempt params others) :
    Entries.Agree Param.Alike exempt (inject params fields) (inject others fields) := by
  rw [inject, inject]
  induction fields generalizing params others with
  | nil => exact h
  | cons field fields ih =>
    obtain ⟨name, expr⟩ := field
    refine ih ?_
    simp only [Entries.has_eq, h.mem_names]
    split
    · exact h
    · exact h.put name (.expr expr)

/-- The scripts of alike steps have the same parameters, apart from
the objects under the roots of dotted names. -/
theorem agree_scriptParams (h : node.Alike node') :
    Entries.Agree Param.Alike (· ∈ node.roots) (scriptParams node) (scriptParams node') := by
  refine agree_inject contextParams
    ((Params.agree_ofStep (h.config.filter fun name => !controlNames.contains name)
    h.inputs).mono fun name hname => ?_)
  rw [Node.roots, Params.roots, List.filterMap_append, List.mem_append]
  refine hname.imp_left fun hconfig => ?_
  exact ((List.filter_sublist.map Prod.fst).filterMap Params.root?).subset hconfig

end Compile

end Flowplan
