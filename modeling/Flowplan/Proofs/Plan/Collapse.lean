import Flowplan.Proofs.Plan.Params
import Mathlib.Data.List.Induction

namespace Flowplan

namespace Params

variable {params : Entries Param} {name root path : String} {p : Param}

def segments (name : String) : List String := (Text.segments '.' name.toList).map String.ofList

theorem splitName_eq (name : String) : splitName name =
    (String.ofList (Text.cut '.' name.toList).1, (Text.cut '.' name.toList).2.map String.ofList) :=
  rfl

theorem segments_eq (name : String) :
    segments name = (splitName name).1 :: ((splitName name).2.map segments).getD [] := by
  rw [segments, Text.segments_eq_cut, splitName_eq]
  cases (Text.cut '.' name.toList).2 with
  | none => rfl
  | some rest => simp [segments]

theorem head_segments (name : String) : (segments name).head? = some (splitName name).1 := by
  rw [segments_eq, List.head?_cons]

theorem dot_notMem_root (name : String) : '.' ∉ (splitName name).1.toList := by
  rw [splitName_eq, String.toList_ofList]
  exact Text.notMem_cut '.' name.toList

theorem isSome_splitName (name : String) : (splitName name).2.isSome = isDotted name := by
  rw [splitName_eq, Option.isSome_map, Text.isSome_cut, isDotted]

theorem splitName_of_notMem (h : '.' ∉ name.toList) : splitName name = (name, none) := by
  rw [splitName_eq, Text.cut_of_notMem h, String.ofList_toList]
  rfl

theorem splitName_of_not_dotted (h : isDotted name = false) : splitName name = (name, none) :=
  splitName_of_notMem (by simpa [isDotted] using h)

theorem exists_splitName (h : isDotted name = true) :
    ∃ root path, splitName name = (root, some path) := by
  obtain ⟨path, hpath⟩ := Option.isSome_iff_exists.mp ((isSome_splitName name).trans h)
  exact ⟨_, path, Prod.ext rfl hpath⟩

theorem isDotted_root (name : String) : isDotted (splitName name).1 = false := by
  simpa [isDotted] using dot_notMem_root name

theorem map_toList_segments (name : String) :
    (segments name).map String.toList = Text.segments '.' name.toList := by
  simp [segments, Function.comp_def]

theorem segments_ne_nil (name : String) : segments name ≠ [] := by
  rw [segments_eq]
  exact List.cons_ne_nil _ _

theorem segments_inj {other : String} (h : segments name = segments other) : name = other := by
  have hjoin := congrArg (fun names => Text.joinWith ['.'] (names.map String.toList)) h
  simp only [map_toList_segments, Text.joinWith_segments] at hjoin
  exact String.toList_inj.mp hjoin

theorem notMem_segments : ∀ part ∈ segments name, '.' ∉ part.toList := by
  intro part hpart
  obtain ⟨piece, hpiece, rfl⟩ := List.mem_map.mp hpart
  rw [String.toList_ofList]
  exact Text.notMem_of_mem_segments hpiece

theorem segments_of_not_dotted (h : isDotted name = false) : segments name = [name] := by
  rw [segments_eq, splitName_of_not_dotted h]
  rfl

theorem segments_of_split (h : splitName name = (root, some path)) :
    segments name = root :: segments path := by
  rw [segments_eq, h]
  rfl

theorem isDotted_of_split (h : splitName name = (root, some path)) : isDotted name = true := by
  rw [← isSome_splitName, h]
  rfl

theorem root?_eq (name : String) : root? name = if isDotted name then some (splitName name).1
    else none := by
  rw [root?, ← isSome_splitName]
  rcases splitName name with ⟨root, _ | path⟩ <;> rfl

theorem mem_roots_iff {names : List String} :
    root ∈ roots names ↔ ∃ name ∈ names, isDotted name = true ∧ (splitName name).1 = root := by
  simp [roots, root?_eq]

theorem mem_names_collapse_iff :
    name ∈ (collapse params).names ↔ ∃ key ∈ params.names, (splitName key).1 = name := by
  rw [mem_names_collapse, mem_roots_iff]
  constructor
  · rintro (⟨hmem, hdotted⟩ | ⟨key, hkey, _, hroot⟩)
    · exact ⟨name, hmem, by rw [splitName_of_not_dotted hdotted]⟩
    · exact ⟨key, hkey, hroot⟩
  · rintro ⟨key, hkey, rfl⟩
    cases hdotted : isDotted key with
    | true => exact .inr ⟨key, hkey, hdotted, rfl⟩
    | false => exact .inl ⟨by rwa [splitName_of_not_dotted hdotted], isDotted_root key⟩

theorem isDotted_of_mem_collapse (h : name ∈ (collapse params).names) : isDotted name = false := by
  obtain ⟨key, _, rfl⟩ := mem_names_collapse_iff.mp h
  exact isDotted_root key

theorem collapse_eq_self (h : ∀ name ∈ params.names, isDotted name = false) :
    collapse params = params := by
  have hentry : ∀ entry ∈ params, isDotted entry.1 = false :=
    fun entry hentry => h _ (List.mem_map_of_mem hentry)
  have hplain : plain params = params :=
    List.filter_eq_self.mpr fun entry he => by rw [hentry entry he]; rfl
  have hdotted : dotted params = [] :=
    List.filterMap_eq_nil_iff.mpr fun (name, p) he => by
      simp [splitName_of_not_dotted (hentry _ he)]
  rw [collapse_eq, hplain, objects, hdotted]
  rfl

theorem collapse_collapse (params : Entries Param) : collapse (collapse params) = collapse params :=
  collapse_eq_self fun _ => isDotted_of_mem_collapse

section Groups

variable {α β : Type} {items : List (String × α)} {head : String}

def under (head : String) (items : List (String × α)) : List α :=
  (items.filter fun item => item.1 == head).map Prod.snd

theorem mem_under_iff {x : α} : x ∈ under head items ↔ (head, x) ∈ items := by
  simp [under]

theorem groupUnder_append (items : List (String × α)) (item : String × α) :
    groupUnder (items ++ [item]) =
      (groupUnder items).put item.1 (((groupUnder items).lookup item.1).getD [] ++ [item.2]) := by
  rw [groupUnder, List.foldl_append]
  rfl

theorem nodup_groupUnder (items : List (String × α)) : (groupUnder items).names.Nodup := by
  induction items using List.reverseRecOn with
  | nil => exact .nil
  | append_singleton items item ih =>
    exact groupUnder_append items item ▸ Entries.nodup_names_put ih

theorem lookup_groupUnder : (groupUnder items).lookup head =
    if head ∈ Entries.names items then some (under head items) else none := by
  induction items using List.reverseRecOn with
  | nil => rfl
  | append_singleton items item ih =>
    obtain ⟨first, x⟩ := item
    rw [groupUnder_append]
    by_cases hfirst : head = first
    · subst hfirst
      rw [Entries.lookup_put, ih]
      by_cases hmem : head ∈ Entries.names items
      · simp [hmem, under]
      · have hunder : under head items = [] :=
          List.eq_nil_iff_forall_not_mem.mpr fun x hx =>
            hmem (List.mem_map_of_mem (mem_under_iff.mp hx))
        rw [under, List.map_eq_nil_iff] at hunder
        simp [hmem, hunder, under]
    · have hne : (first == head) = false := by simpa using Ne.symm hfirst
      rw [Entries.lookup_put_of_ne hfirst, ih]
      simp [under, hfirst, hne]

theorem mem_groupUnder_iff {group : List α} :
    (head, group) ∈ groupUnder items ↔ head ∈ Entries.names items ∧ group = under head items := by
  rw [← Entries.lookup_eq_some_iff (nodup_groupUnder items), lookup_groupUnder]
  split <;> simp [*, eq_comm]

theorem groupUnder_mapValues (f : α → β) (items : Entries α) :
    groupUnder (items.mapValues f) = (groupUnder items).mapValues (List.map f) := by
  induction items using List.reverseRecOn with
  | nil => rfl
  | append_singleton items item ih =>
    have hitems : Entries.mapValues f (items ++ [item]) =
        Entries.mapValues f items ++ [(item.1, f item.2)] := List.map_append
    rw [hitems, groupUnder_append, groupUnder_append, ih, Entries.mapValues_put,
      Entries.lookup_mapValues]
    cases (groupUnder items).lookup item.1 <;> simp

end Groups

def children (root : String) (params : Entries Param) : Entries Param := under root (dotted params)

theorem mem_dotted_iff : (root, path, p) ∈ dotted params ↔
    ∃ name, (name, p) ∈ params ∧ splitName name = (root, some path) := by
  rw [dotted, List.mem_filterMap]
  constructor
  · rintro ⟨⟨name, q⟩, hmem, hsplit⟩
    refine ⟨name, ?_⟩
    rcases hname : splitName name with ⟨first, _ | rest⟩ <;> simp [hname] at hsplit
    obtain ⟨rfl, rfl, rfl⟩ := hsplit
    exact ⟨hmem, rfl⟩
  · rintro ⟨name, hmem, hsplit⟩
    exact ⟨(name, p), hmem, by simp [hsplit]⟩

theorem mem_children_iff : (path, p) ∈ children root params ↔
    ∃ name, (name, p) ∈ params ∧ splitName name = (root, some path) := by
  rw [children, mem_under_iff, mem_dotted_iff]

def path? (root name : String) : Option String :=
  match splitName name with
  | (first, some path) => if first == root then some path else none
  | (_, none) => none

theorem path?_eq_some_iff : path? root name = some path ↔ splitName name = (root, some path) := by
  rw [path?]
  rcases splitName name with ⟨first, _ | rest⟩ <;> simp

theorem names_children (root : String) (params : Entries Param) :
    (children root params).names = params.names.filterMap (path? root) := by
  induction params with
  | nil => rfl
  | cons entry params ih =>
    obtain ⟨name, p⟩ := entry
    simp only [children, under, dotted, Entries.names, List.filterMap_cons, List.map_cons,
      path?] at ih ⊢
    rcases splitName name with ⟨first, _ | rest⟩
    · exact ih
    · by_cases hfirst : first = root
      · simpa [hfirst] using ih
      · simpa [hfirst] using ih

theorem nodup_names_children (root : String) (h : params.names.Nodup) :
    (children root params).names.Nodup := by
  rw [names_children]
  refine h.filterMap fun name other path hname hother => segments_inj ?_
  rw [segments_of_split (path?_eq_some_iff.mp hname),
    segments_of_split (path?_eq_some_iff.mp hother)]

theorem staticFields_plain (h : isDotted root = false) :
    staticFields ((plain params).lookup root) = staticFields (params.lookup root) := by
  rw [plain, Entries.lookup_filter fun name => !isDotted name, h]
  rfl

theorem lookup_collapse_root (h : root ∈ roots params.names) : (collapse params).lookup root =
    some (objectOf (staticFields (params.lookup root)) (children root params)) := by
  have hnames : (objects params).names = (groupUnder (dotted params)).names := by
    rw [objects, Entries.names, List.map_map]
    rfl
  have hgroup : (root, children root params) ∈ groupUnder (dotted params) :=
    mem_groupUnder_iff.mpr ⟨by rwa [Entries.names, names_dotted], rfl⟩
  have hobject : (objects params).lookup root =
      some (objectOf (staticFields ((plain params).lookup root)) (children root params)) := by
    rw [Entries.lookup_eq_some_iff (hnames ▸ nodup_groupUnder _)]
    exact List.mem_map_of_mem
      (f := fun group => (group.1, objectOf (staticFields ((plain params).lookup group.1)) group.2))
        hgroup
  rw [collapse_eq, Entries.lookup_putAll (hnames ▸ nodup_groupUnder _), hobject, Option.some_or,
    staticFields_plain]
  obtain ⟨_, _, _, rfl⟩ := mem_roots_iff.mp h
  exact isDotted_root _

def propertyOf (field : String × Param) : List Char := property field.1.toList field.2.render

def nestedPart (base : Entries Json) (group : String × Entries Param) : List Char :=
  property group.1.toList
    (objectText (spreadPart (objectFields (base.lookup group.1)) ++ group.2.map propertyOf))

/-- The parts of an object: what its base has, names that have no more dots, and the objects
of the parents that other names begin with. -/
def parts (base : Entries Json) (children : Entries Param) : List (List Char) :=
  spreadPart base ++ (plain children).map propertyOf
    ++ (groupUnder (dotted children)).map (nestedPart base)

def directText (child : String × Param) : Option (List Char) :=
  match splitName child.1 with
  | (name, none) => some (property name.toList child.2.render)
  | _ => none

def nestedText (child : String × Param) : Option (String × List Char) :=
  match splitName child.1 with
  | (parent, some name) => some (parent, property name.toList child.2.render)
  | _ => none

theorem filterMap_directText (children : Entries Param) :
    children.filterMap directText = (plain children).map propertyOf := by
  rw [plain, ← List.filterMap_eq_filter, List.map_filterMap]
  refine List.filterMap_congr fun child _ => ?_
  cases hdotted : isDotted child.1 with
  | false => simp [directText, splitName_of_not_dotted hdotted, hdotted, propertyOf]
  | true =>
    obtain ⟨parent, name, hsplit⟩ := exists_splitName hdotted
    simp [directText, hsplit, hdotted]

theorem filterMap_nestedText (children : Entries Param) :
    children.filterMap nestedText = Entries.mapValues propertyOf (dotted children) := by
  rw [dotted, Entries.mapValues, List.map_filterMap]
  refine List.filterMap_congr fun child _ => ?_
  obtain ⟨path, p⟩ := child
  rw [nestedText]
  dsimp only
  rcases splitName path with ⟨parent, _ | name⟩ <;> rfl

theorem objectOf_eq (base : Entries Json) (children : Entries Param) :
    objectOf base children =
      .expr (String.ofList ('(' :: objectText (parts base children) ++ [')'])) := by
  have hobject : objectOf base children =
      .expr (String.ofList ('(' :: objectText (spreadPart base ++ children.filterMap directText ++
        (groupUnder (children.filterMap nestedText)).map fun group =>
          property group.1.toList
            (objectText (spreadPart (objectFields (base.lookup group.1)) ++ group.2))) ++ [')'])) :=
    rfl
  rw [hobject, filterMap_directText, filterMap_nestedText, groupUnder_mapValues, parts,
    Entries.mapValues, List.map_map]
  rfl

theorem infix_objectText {part : List Char} {parts : List (List Char)} (h : part ∈ parts) :
    part <:+: objectText parts :=
  (Text.infix_joinWith h).trans
    ((List.prefix_append _ _).isInfix.trans (List.suffix_cons '{' _).isInfix)

theorem infix_property (name value : List Char) : value <:+: property name value :=
  (List.suffix_append_of_suffix (List.suffix_append [':', ' '] value)).isInfix

theorem infix_objectOf {base : Entries Json} {children : Entries Param} {part text : List Char}
    (hpart : part ∈ parts base children) (htext : text <:+: part) :
    text <:+: '(' :: objectText (parts base children) ++ [')'] :=
  htext.trans
    ((infix_objectText hpart).trans
      ((List.prefix_append _ _).isInfix.trans (List.suffix_cons '(' _).isInfix))

theorem infix_of_mem_children {base : Entries Json} {children : Entries Param}
    (h : (path, p) ∈ children) :
    p.render <:+: '(' :: objectText (parts base children) ++ [')'] := by
  cases hdotted : isDotted path with
  | false =>
    have hpart : propertyOf (path, p) ∈ parts base children := by
      refine List.mem_append_left _ (List.mem_append_right _ (List.mem_map_of_mem ?_))
      exact List.mem_filter.mpr ⟨h, by simp [hdotted]⟩
    exact infix_objectOf hpart (infix_property path.toList p.render)
  | true =>
    obtain ⟨parent, name, hsplit⟩ := exists_splitName hdotted
    have hmem : (parent, name, p) ∈ dotted children := mem_dotted_iff.mpr ⟨path, h, hsplit⟩
    have hgroup : (parent, under parent (dotted children)) ∈ groupUnder (dotted children) :=
      mem_groupUnder_iff.mpr ⟨List.mem_map_of_mem hmem, rfl⟩
    refine infix_objectOf (List.mem_append_right _ (List.mem_map_of_mem hgroup)) ?_
    have hproperty : propertyOf (name, p) ∈ spreadPart (objectFields (base.lookup parent)) ++
        (under parent (dotted children)).map propertyOf :=
      List.mem_append_right _ (List.mem_map_of_mem (mem_under_iff.mpr hmem))
    exact (infix_property name.toList p.render).trans
      ((infix_objectText hproperty).trans (infix_property parent.toList _))

theorem infix_of_base {base : Entries Json} {children : Entries Param} (h : base ≠ []) :
    (Param.static (.obj base)).render <:+: '(' :: objectText (parts base children) ++ [')'] := by
  have hpart : spread base ∈ parts base children := by
    simp [parts, spreadPart, h]
  exact infix_objectOf hpart (List.suffix_append ['.', '.', '.'] _).isInfix

def IsUnder (root name : String) : Prop := ∃ path, path ≠ [] ∧ segments name = root :: path

theorem isUnder_iff : IsUnder root name ↔ ∃ path, splitName name = (root, some path) := by
  rw [IsUnder, segments_eq]
  rcases splitName name with ⟨first, _ | path⟩
  · simp
  · constructor
    · rintro ⟨_, _, hsegments⟩
      obtain rfl : first = root := (List.cons.inj hsegments).1
      exact ⟨path, rfl⟩
    · rintro ⟨path, heq⟩
      cases heq
      exact ⟨segments path, segments_ne_nil path, rfl⟩

theorem mem_roots_iff_isUnder {names : List String} :
    root ∈ roots names ↔ ∃ name ∈ names, IsUnder root name := by
  simp only [isUnder_iff, mem_roots_iff]
  refine exists_congr fun name => and_congr_right fun _ => ?_
  rw [← isSome_splitName]
  rcases splitName name with ⟨first, _ | path⟩ <;> simp

theorem mem_children_of_isUnder (h : (name, p) ∈ params) (hunder : IsUnder root name) :
    ∃ path, (path, p) ∈ children root params := by
  obtain ⟨path, hsplit⟩ := isUnder_iff.mp hunder
  exact ⟨path, mem_children_iff.mpr ⟨name, h, hsplit⟩⟩

theorem dotted_erase (h : isDotted root = false) : dotted (params.erase root) = dotted params := by
  rw [dotted, Entries.erase, List.filterMap_filter, dotted]
  refine List.filterMap_congr fun param _ => ?_
  obtain ⟨name, p⟩ := param
  by_cases hname : name = root
  · subst hname
    simp [splitName_of_not_dotted h]
  · simp [hname]

theorem lookup_erase_self : (params.erase root).lookup root = none := by
  have hlookup := Entries.lookup_filter (· != root) params root
  rwa [bne_self_eq_false, if_neg Bool.false_ne_true] at hlookup

/-- Collapsing keeps the texts of all dotted names of a root, and of its static object.
Any other value of the root leaves no trace. -/
theorem keeps_texts (params : Entries Param) (root : String)
    (h : ∃ name ∈ params.names, IsUnder root name) :
    ∃ text, (collapse params).lookup root = some (.expr text) ∧
      (∀ name p, (name, p) ∈ params → IsUnder root name → p.render <:+: text.toList) ∧
      (∀ fields, fields ≠ [] → params.lookup root = some (.static (.obj fields)) →
        (Param.static (.obj fields)).render <:+: text.toList) ∧
      ((∀ fields, params.lookup root ≠ some (.static (.obj fields))) →
        (collapse (params.erase root)).lookup root = some (.expr text)) := by
  have hroot : root ∈ roots params.names := mem_roots_iff_isUnder.mpr h
  have hplain : isDotted root = false := by
    obtain ⟨name, _, _, rfl⟩ := mem_roots_iff.mp hroot
    exact isDotted_root name
  refine ⟨_, (lookup_collapse_root hroot).trans (congrArg some (objectOf_eq _ _)), ?_, ?_,
    fun hother => ?_⟩
  · intro name p hmem hunder
    obtain ⟨path, hchild⟩ := mem_children_of_isUnder hmem hunder
    rw [String.toList_ofList]
    exact infix_of_mem_children hchild
  · intro fields hfields hlookup
    rw [hlookup, String.toList_ofList]
    exact infix_of_base hfields
  · have hroot' : root ∈ roots (params.erase root).names := by
      rwa [← names_dotted, dotted_erase hplain, names_dotted]
    have hbase : staticFields (params.lookup root) = [] := by
      rcases hlookup : params.lookup root with _ | (value | text)
      · rfl
      · cases value with
        | obj fields => exact absurd hlookup (hother fields)
        | _ => rfl
      · rfl
    rw [lookup_collapse_root hroot', lookup_erase_self, hbase, children, children,
      dotted_erase hplain, ← objectOf_eq]
    rfl

def oneUnder (base : Param) : Entries Param := [("body", base), ("body.a", .static (.int 1))]

/-- A static object is spread. -/
theorem keeps_texts_oneUnder : ∃ text,
    (collapse (oneUnder (.static (.obj [("b", .int 2)])))).lookup "body" = some (.expr text) ∧
      "\x7b\"b\":2\x7d".toList <:+: text.toList ∧ "1".toList <:+: text.toList := by
  have hunder : IsUnder "body" "body.a" := ⟨["a"], by decide, by decide⟩
  obtain ⟨text, hlookup, hdotted, hbase, -⟩ :=
    keeps_texts (oneUnder (.static (.obj [("b", .int 2)]))) "body"
    ⟨"body.a", by decide, hunder⟩
  have hspread := hbase [("b", .int 2)] (by decide) (by decide)
  have hone := hdotted "body.a" (.static (.int 1)) (by decide) hunder
  have hspreadText : (Param.static (.obj [("b", .int 2)])).render = "\x7b\"b\":2\x7d".toList := by
    decide
  have honeText : (Param.static (.int 1)).render = "1".toList := by decide
  rw [hspreadText] at hspread
  rw [honeText] at hone
  exact ⟨text, hlookup, hspread, hone⟩

/-- A reference is not. -/
theorem reference_dropped_oneUnder : IsUnder "body" "body.a" ∧ ∃ text,
    (collapse (oneUnder (.expr "flow_input.body"))).lookup "body" = some (.expr text) ∧
      ¬ "flow_input.body".toList <:+: text.toList := by
  refine ⟨⟨["a"], by decide, by decide⟩, "(\x7ba: 1\x7d)", by decide +kernel, fun h => ?_⟩
  exact absurd h.length_le (by decide)

end Params

end Flowplan
