import Flowplan.Proofs.Plan.Collapse
import Flowplan.Proofs.Plan.Literal

/-!
# Objects of dotted names

What the object expression of a root says when it is read: a value stands behind
the names that lead to it, the first name after the root and all others as one,
and the base has whatever none of them touches.
-/

namespace Flowplan.Params

open Literal (ofJson Reads Puts names_quote names_propertyName reads_object reads_write)
open Json.Parser (isBlank)

variable {entries : Entries Param} {base : Entries Json} {name root path : String} {p : Param}

def layered (base : Entries Json) (fields : Entries Literal) : Literal :=
  .object (Entries.putAll [] (base.mapValues ofJson ++ fields))

def literalOf : Param → Literal
  | .static value => ofJson value
  | .expr text => .word text.toList

def direct (entries : Entries Param) : Entries Literal := (plain entries).mapValues literalOf

def nestedIn (base : Entries Json) (group : String × Entries Param) : String × Literal :=
  (group.1, layered (objectFields (base.lookup group.1)) (Entries.mapValues literalOf group.2))

def nested (base : Entries Json) (entries : Entries Param) : Entries Literal :=
  (groupUnder (dotted entries)).map (nestedIn base)

def built (base : Entries Json) (entries : Entries Param) : Literal :=
  layered base (direct entries ++ nested base entries)

/-- Where the value of a path stands: behind its first name, and behind all others as one name. -/
def place : List String → List String
  | first :: second :: more =>
    [first, String.ofList (Text.joinWith ['.'] ((second :: more).map String.toList))]
  | path => path

theorem place_of_length_le {path : List String} (h : path.length ≤ 2) : place path = path := by
  match path with
  | [] | [_] => rfl
  | [first, second] => simp [place, Text.joinWith]
  | first :: second :: third :: more => simp at h

theorem place_segments_of_not_dotted (h : isDotted path = false) :
    place (segments path) = [path] := by
  rw [segments_of_not_dotted h]
  rfl

theorem place_segments {parent : String} (h : splitName path = (parent, some name)) :
    place (segments path) = [parent, name] := by
  obtain ⟨second, more, hcons⟩ := List.exists_cons_of_ne_nil (segments_ne_nil name)
  rw [segments_of_split h, hcons, place, ← hcons, map_toList_segments, Text.joinWith_segments,
    String.ofList_toList]

theorem begins_or_reaches_place {path other : List String} (hne : path ≠ [])
    (h : path <+: place other) : path <+: other ∨ place other <+: path := by
  match other with
  | [] | [_] => exact .inl h
  | first :: second :: more =>
    obtain ⟨name, path, rfl⟩ := List.exists_cons_of_ne_nil hne
    obtain ⟨rfl, hpath⟩ := List.cons_prefix_cons.mp h
    cases path with
    | nil => exact .inl (List.prefix_append [name] (second :: more))
    | cons last path =>
      obtain ⟨rfl, hnil⟩ := List.cons_prefix_cons.mp hpath
      rw [List.prefix_nil.mp hnil]
      exact .inr (List.prefix_rfl)

theorem not_reaches_place {path other : List String} (hlength : 2 < other.length)
    (h : ∀ name ∈ path, '.' ∉ name.toList) : ¬ place other <+: path := by
  intro hplace
  match other with
  | [] | [_] | [_, _] => simp at hlength
  | first :: second :: third :: more =>
    refine h _ (hplace.subset (.tail _ List.mem_cons_self)) ?_
    simp [Text.joinWith]

theorem length_place_le (path : List String) : (place path).length ≤ 2 := by
  match path with
  | [] | [_] => simp [place]
  | first :: second :: more => exact Nat.le_refl 2

def IsStatic (p : Param) : Prop := ∃ value, p = .static value ∧ value.isProper = true

/-- A name that does not lose its line break as the name of a property. -/
def IsSpoken (name : String) : Prop := isIdentifier name.toList = true → '\n' ∉ name.toList
deriving Decidable

theorem puts_property {value : List Char} {literal : Literal} (hname : IsSpoken name)
    (h : Reads value literal) : Puts (property name.toList value) [(name, literal)] := by
  have hblank : ∀ c ∈ [' '], isBlank c = true := by simp [isBlank]
  have hputs := (names_propertyName hname).puts hblank h
  rwa [String.ofList_toList] at hputs

theorem puts_propertyOf (hname : IsSpoken name) (hp : IsStatic p) :
    Puts (propertyOf (name, p)) [(name, literalOf p)] := by
  obtain ⟨value, rfl, hproper⟩ := hp
  exact puts_property hname (reads_write hproper 0)

theorem isProper_objectFields (h : (Json.obj base).isProper = true) (name : String) :
    (Json.obj (objectFields (base.lookup name))).isProper = true := by
  rcases hlookup : base.lookup name with _ | value
  · rfl
  · cases value with
    | obj fields => exact (Json.isProper_obj_iff.mp h).2 _ (Entries.mem_of_lookup hlookup)
    | _ => rfl

theorem reads_objectText {members : List (List Char × Entries Literal)}
    (hbase : (Json.obj base).isProper = true) (h : ∀ m ∈ members, Puts m.1 m.2) :
    Reads (objectText (spreadPart base ++ members.map Prod.fst))
      (layered base (members.flatMap Prod.snd)) := by
  have hblank : ∀ c ∈ [' '], isBlank c = true := by simp [isBlank]
  cases base with
  | nil => exact reads_object hblank h
  | cons entry base =>
    have hspread := reads_write hbase 0
    rw [Literal.ofJson_obj] at hspread
    have hmembers : ∀ m ∈ (spread (entry :: base), Entries.mapValues ofJson (entry :: base)) ::
        members, Puts m.1 m.2 := List.forall_mem_cons.mpr ⟨hspread.puts, h⟩
    exact reads_object hblank hmembers

def directMember (child : String × Param) : List Char × Entries Literal :=
  (propertyOf child, [(child.1, literalOf child.2)])

def nestedMember (base : Entries Json) (group : String × Entries Param) :
    List Char × Entries Literal := (nestedPart base group, [nestedIn base group])

theorem flatMap_directMember (entries : Entries Param) :
    (entries.map directMember).flatMap Prod.snd = entries.mapValues literalOf := by
  rw [List.flatMap_map]
  exact List.map_eq_flatMap.symm

theorem spoken_of_mem_group {parent : String} {group : Entries Param}
    (hspoken : ∀ path ∈ entries.names, ∀ name ∈ place (segments path), IsSpoken name)
    (hgroup : (parent, group) ∈ groupUnder (dotted entries)) (h : (name, p) ∈ group) :
    IsSpoken parent ∧ IsSpoken name ∧ ∃ path, (path, p) ∈ entries := by
  obtain ⟨_, rfl⟩ := mem_groupUnder_iff.mp hgroup
  obtain ⟨path, hchild, hsplit⟩ := mem_dotted_iff.mp (mem_under_iff.mp h)
  have hnames := hspoken path (List.mem_map_of_mem hchild)
  rw [place_segments hsplit] at hnames
  exact ⟨hnames parent (by simp), hnames name (by simp), path, hchild⟩

theorem puts_nestedPart (hbase : (Json.obj base).isProper = true)
    (hstatic : ∀ child ∈ entries, IsStatic child.2)
    (hspoken : ∀ path ∈ entries.names, ∀ name ∈ place (segments path), IsSpoken name)
    {group : String × Entries Param} (hgroup : group ∈ groupUnder (dotted entries)) :
    Puts (nestedPart base group) [nestedIn base group] := by
  obtain ⟨parent, group⟩ := group
  have hmembers : ∀ m ∈ group.map directMember, Puts m.1 m.2 := by
    intro m hm
    obtain ⟨⟨name, p⟩, hmem, rfl⟩ := List.mem_map.mp hm
    obtain ⟨_, hname, path, hchild⟩ := spoken_of_mem_group hspoken hgroup hmem
    exact puts_propertyOf hname (hstatic _ hchild)
  have hobject := reads_objectText (isProper_objectFields hbase parent) hmembers
  rw [List.map_map, flatMap_directMember] at hobject
  refine puts_property ?_ hobject
  obtain ⟨hmem, rfl⟩ := mem_groupUnder_iff.mp hgroup
  obtain ⟨⟨_, name, p⟩, hdotted, rfl⟩ := List.mem_map.mp hmem
  exact (spoken_of_mem_group hspoken hgroup (mem_under_iff.mpr hdotted)).1

theorem reads_parts (hbase : (Json.obj base).isProper = true)
    (hstatic : ∀ child ∈ entries, IsStatic child.2)
    (hspoken : ∀ path ∈ entries.names, ∀ name ∈ place (segments path), IsSpoken name) :
    Reads (objectText (parts base entries)) (built base entries) := by
  have hmembers :
      ∀ m ∈ (plain entries).map directMember
        ++ (groupUnder (dotted entries)).map (nestedMember base), Puts m.1 m.2 := by
    intro m hm
    rcases List.mem_append.mp hm with hm | hm
    · obtain ⟨⟨path, p⟩, hmem, rfl⟩ := List.mem_map.mp hm
      obtain ⟨hchild, hplain⟩ := List.mem_filter.mp hmem
      have hnames := hspoken path (List.mem_map_of_mem hchild)
      rw [place_segments_of_not_dotted (by simpa using hplain)] at hnames
      exact puts_propertyOf (hnames path List.mem_cons_self) (hstatic _ hchild)
    · obtain ⟨group, hgroup, rfl⟩ := List.mem_map.mp hm
      exact puts_nestedPart hbase hstatic hspoken hgroup
  have hobject := reads_objectText hbase hmembers
  rw [List.map_append, List.map_map, List.map_map, List.flatMap_append,
    flatMap_directMember] at hobject
  have hnested : ((groupUnder (dotted entries)).map (nestedMember base)).flatMap Prod.snd =
      nested base entries := by
    rw [List.flatMap_map]
    exact List.map_eq_flatMap.symm
  rw [hnested, ← List.append_assoc] at hobject
  exact hobject

theorem follow_layered {fields : Entries Literal} (hbase : base.names.Nodup)
    (hfields : fields.names.Nodup) (name : String) (path : List String) :
    (layered base fields).follow (name :: path) =
      ((fields.lookup name).or ((base.lookup name).map ofJson)).bind (Literal.follow path) := by
  rw [layered, Literal.follow, Entries.putAll_append, Entries.lookup_putAll hfields,
    Entries.lookup_putAll (by simpa using hbase), Entries.lookup_mapValues, List.lookup_nil,
    Option.or_none]

theorem bind_follow_map (value : Option Json) (names : List String) :
    (value.map ofJson).bind (Literal.follow names) =
      (value.bind (Json.follow names)).map ofJson := by
  cases value with
  | none => rfl
  | some value => exact Literal.follow_ofJson names value

theorem follow_objectFields (value : Option Json) (name : String) (names : List String) :
    (Json.obj (objectFields value)).follow (name :: names) =
      value.bind (Json.follow (name :: names)) := by
  cases value with
  | none => rfl
  | some value => cases value <;> rfl

theorem names_direct (entries : Entries Param) : (direct entries).names = (plain entries).names :=
  Entries.names_mapValues _ _

theorem names_nested (base : Entries Json) (entries : Entries Param) :
    (nested base entries).names = (groupUnder (dotted entries)).names :=
  List.map_map

theorem mem_names_nested : name ∈ (nested base entries).names ↔
    ∃ path ∈ entries.names, ∃ rest, splitName path = (name, some rest) := by
  rw [names_nested, mem_names_groupUnder]
  constructor
  · intro hmem
    obtain ⟨⟨_, rest, p⟩, hentry, rfl⟩ := List.mem_map.mp hmem
    obtain ⟨path, hpath, hsplit⟩ := mem_dotted_iff.mp hentry
    exact ⟨path, List.mem_map_of_mem hpath, rest, hsplit⟩
  · rintro ⟨path, hpath, rest, hsplit⟩
    obtain ⟨⟨_, p⟩, hentry, rfl⟩ := List.mem_map.mp hpath
    exact List.mem_map_of_mem (mem_dotted_iff.mpr ⟨_, hentry, hsplit⟩)

theorem lookup_nested (h : name ∈ (nested base entries).names) :
    (nested base entries).lookup name = some (nestedIn base (name, children name entries)).2 := by
  rw [names_nested, mem_names_groupUnder] at h
  have hgroup : (name, children name entries) ∈ groupUnder (dotted entries) :=
    mem_groupUnder_iff.mpr ⟨h, rfl⟩
  rw [Entries.lookup_eq_some_iff (names_nested base entries ▸ nodup_groupUnder _)]
  exact List.mem_map_of_mem hgroup

theorem nodup_names_nestedIn (hnodup : entries.names.Nodup) (parent : String) :
    ((children parent entries).mapValues literalOf).names.Nodup := by
  rw [Entries.names_mapValues]
  exact nodup_names_children parent hnodup

theorem follow_nestedIn (hbase : (Json.obj base).isProper = true) (hnodup : entries.names.Nodup)
    (parent name : String) (path : List String) :
    (nestedIn base (parent, children parent entries)).2.follow (name :: path) =
      ((((children parent entries).mapValues literalOf).lookup name).or
        (((objectFields (base.lookup parent)).lookup name).map ofJson)).bind
          (Literal.follow path) :=
  follow_layered (Json.isProper_obj_iff.mp (isProper_objectFields hbase parent)).1
    (nodup_names_nestedIn hnodup parent) name path

section Built

variable (hnodup : entries.names.Nodup)
  (hfree : ∀ path ∈ entries.names, ∀ other ∈ entries.names, segments path <+: segments other →
    path = other)

include hnodup hfree

theorem nodup_fields (base : Entries Json) :
    (direct entries ++ nested base entries).names.Nodup := by
  rw [Entries.names_append, List.nodup_append]
  refine ⟨?_, names_nested base entries ▸ nodup_groupUnder _,
    fun name hdirect other hnested heq => ?_⟩
  · rw [names_direct]
    exact hnodup.sublist (List.filter_sublist.map _)
  · -- a name with no dots that another begins with would be the beginning of the other
    subst heq
    obtain ⟨hmem, hdotted⟩ := mem_names_plain.mp (names_direct entries ▸ hdirect)
    obtain ⟨path, hpath, rest, hsplit⟩ := mem_names_nested.mp hnested
    obtain rfl : name = path := hfree name hmem path hpath (by
      rw [segments_of_not_dotted hdotted, segments_of_split hsplit]
      exact List.prefix_append [name] (segments rest))
    rw [isDotted_of_split hsplit] at hdotted
    cases hdotted

theorem follow_place (hbase : (Json.obj base).isProper = true) (hchild : (path, p) ∈ entries) :
    (built base entries).follow (place (segments path)) = some (literalOf p) := by
  have hnames : base.names.Nodup := (Json.isProper_obj_iff.mp hbase).1
  have hfields := nodup_fields hnodup hfree base
  cases hdotted : isDotted path with
  | false =>
    have hmem : (path, literalOf p) ∈ direct entries ++ nested base entries :=
      List.mem_append_left
        _ (Entries.mem_mapValues (List.mem_filter.mpr ⟨hchild, by simp [hdotted]⟩))
    rw [place_segments_of_not_dotted hdotted, built, follow_layered hnames hfields,
      (Entries.lookup_eq_some_iff hfields).mpr hmem]
    rfl
  | true =>
    obtain ⟨parent, name, hsplit⟩ := exists_splitName hdotted
    have hparent : parent ∈ (nested base entries).names :=
      mem_names_nested.mpr ⟨path, List.mem_map_of_mem hchild, name, hsplit⟩
    have hmem :=
      List.mem_append_right (direct entries) (Entries.mem_of_lookup (lookup_nested hparent))
    have hvalue : (name, literalOf p) ∈ (children parent entries).mapValues literalOf :=
      Entries.mem_mapValues (mem_children_iff.mpr ⟨path, hchild, hsplit⟩)
    rw [place_segments hsplit, built, follow_layered hnames hfields,
      (Entries.lookup_eq_some_iff hfields).mpr hmem]
    refine (follow_nestedIn hbase hnodup parent name []).trans ?_
    rw [(Entries.lookup_eq_some_iff (nodup_names_nestedIn hnodup parent)).mpr hvalue]
    rfl

theorem follow_base (hbase : (Json.obj base).isProper = true) {names : List String}
    (hne : names ≠ []) (hapart : ∀ path ∈ entries.names, ¬ place (segments path) <+: names ∧
      ¬ names <+: place (segments path)) :
    (built base entries).follow names = ((Json.obj base).follow names).map ofJson := by
  have hnames : base.names.Nodup := (Json.isProper_obj_iff.mp hbase).1
  have hfields := nodup_fields hnodup hfree base
  obtain ⟨name, more, rfl⟩ := List.exists_cons_of_ne_nil hne
  rw [built, follow_layered hnames hfields, List.lookup_append]
  have hdirect : (direct entries).lookup name = none := by
    rw [Entries.lookup_eq_none_iff, names_direct, mem_names_plain]
    rintro ⟨hmem, hdotted⟩
    obtain ⟨hplace, _⟩ := hapart name hmem
    rw [place_segments_of_not_dotted hdotted] at hplace
    exact hplace (List.prefix_append [name] more)
  rw [hdirect, Option.none_or]
  by_cases hnested : name ∈ (nested base entries).names
  · obtain ⟨path, hpath, rest, hsplit⟩ := mem_names_nested.mp hnested
    obtain ⟨second, more, rfl⟩ : ∃ second more', more = second :: more' := by
      refine List.exists_cons_of_ne_nil fun hnil => (hapart path hpath).2 ?_
      rw [place_segments hsplit, hnil]
      exact List.prefix_append [name] [rest]
    have hother : ((children name entries).mapValues literalOf).lookup second = none := by
      rw [Entries.lookup_eq_none_iff, Entries.names_mapValues]
      intro hsecond
      obtain ⟨⟨_, p⟩, hentry, rfl⟩ := List.mem_map.mp hsecond
      obtain ⟨other, hmem, hsplit⟩ := mem_children_iff.mp hentry
      refine (hapart other (List.mem_map_of_mem hmem)).1 ?_
      rw [place_segments hsplit]
      exact List.prefix_append [name, _] more
    rw [lookup_nested hnested]
    refine (follow_nestedIn hbase hnodup name second more).trans ?_
    rw [hother, Option.none_or, bind_follow_map, Json.follow, ← follow_objectFields, Json.follow]
  · rw [Entries.lookup_eq_none_iff.mpr hnested, Option.none_or, bind_follow_map, Json.follow]

end Built

/-- What the dotted names of a root set, by the names that follow the root. -/
def settings (values : Entries Json) (root : String) : List (List String × Json) :=
  values.filterMap fun (name, value) =>
    match segments name with
    | first :: second :: more => if first == root then some (second :: more, value) else none
    | _ => none

variable {values : Entries Json} {value : Json} {names : List String}

theorem mem_settings_iff : (names, value) ∈ settings values root ↔
    names ≠ [] ∧ ∃ name, (name, value) ∈ values ∧ segments name = root :: names := by
  rw [settings, List.mem_filterMap]
  constructor
  · rintro ⟨⟨name, value'⟩, hmem, hsome⟩
    dsimp only at hsome
    split at hsome
    · next first second more hsegments =>
      by_cases hfirst : first = root
      · simp only [hfirst, beq_self_eq_true, if_true, Option.some.injEq, Prod.mk.injEq] at hsome
        obtain ⟨rfl, rfl⟩ := hsome
        exact ⟨List.cons_ne_nil _ _, name, hmem, hfirst ▸ hsegments⟩
      · simp [hfirst] at hsome
    · cases hsome
  · rintro ⟨hne, name, hmem, hsegments⟩
    obtain ⟨second, more, rfl⟩ := List.exists_cons_of_ne_nil hne
    exact ⟨(name, value), hmem, by simp [hsegments]⟩

theorem mem_settings_iff_mem_children : (names, value) ∈ settings values root ↔
    ∃ path, names = segments path ∧
      (path, .static value) ∈ children root (values.mapValues .static) := by
  rw [mem_settings_iff]
  constructor
  · rintro ⟨hne, name, hmem, hsegments⟩
    obtain ⟨path, hsplit⟩ := isUnder_iff.mp ⟨names, hne, hsegments⟩
    rw [segments_of_split hsplit] at hsegments
    refine ⟨path, (List.cons.inj hsegments).2.symm, mem_children_iff.mpr ⟨name, ?_, hsplit⟩⟩
    exact Entries.mem_mapValues hmem
  · rintro ⟨path, rfl, hmem⟩
    obtain ⟨name, hstatic, hsplit⟩ := mem_children_iff.mp hmem
    obtain ⟨⟨_, _⟩, hvalue, heq⟩ := List.mem_map.mp hstatic
    cases heq
    exact ⟨segments_ne_nil path, name, hvalue, segments_of_split hsplit⟩

theorem exists_setting_of_mem_children (h : (path, p) ∈ children root (values.mapValues .static)) :
    ∃ value, p = .static value ∧ (segments path, value) ∈ settings values root := by
  obtain ⟨name, hmem, _⟩ := mem_children_iff.mp h
  obtain ⟨⟨_, value⟩, _, heq⟩ := List.mem_map.mp hmem
  cases heq
  exact ⟨value, rfl, mem_settings_iff_mem_children.mpr ⟨path, rfl, h⟩⟩

theorem exists_setting_of_mem_names (h : path ∈ (children root (values.mapValues .static)).names) :
    ∃ value, (segments path, value) ∈ settings values root := by
  obtain ⟨⟨_, p⟩, hchild, rfl⟩ := List.mem_map.mp h
  obtain ⟨value, _, hmem⟩ := exists_setting_of_mem_children hchild
  exact ⟨value, hmem⟩

theorem isProper_of_mem_settings (hproper : (Json.obj values).isProper = true)
    (h : (names, value) ∈ settings values root) : value.isProper = true := by
  obtain ⟨_, name, hmem, _⟩ := mem_settings_iff.mp h
  exact (Json.isProper_obj_iff.mp hproper).2 _ hmem

def baseOf (values : Entries Json) (root : String) : Json :=
  .obj (objectFields (values.lookup root))

def rootLiteral (values : Entries Json) (root : String) : Literal :=
  built (objectFields (values.lookup root)) (children root (values.mapValues .static))

theorem read_collapse (hproper : (Json.obj values).isProper = true)
    (hroot : settings values root ≠ [])
    (hspoken : ∀ setting ∈ settings values root, ∀ name ∈ place setting.1, IsSpoken name) :
    ∃ text, (collapse (values.mapValues .static)).lookup root = some (.expr text) ∧
      Literal.read text = some (rootLiteral values root) := by
  have hmem : root ∈ roots (values.mapValues Param.static).names := by
    obtain ⟨⟨path, value⟩, hsetting⟩ := List.exists_mem_of_ne_nil _ hroot
    obtain ⟨hne, name, hname, hsegments⟩ := mem_settings_iff.mp hsetting
    rw [Entries.names_mapValues]
    exact mem_roots_iff_isUnder.mpr ⟨name, List.mem_map_of_mem hname, path, hne, hsegments⟩
  have hbase : staticFields ((values.mapValues Param.static).lookup root) =
      objectFields (values.lookup root) := by
    rw [Entries.lookup_mapValues]
    rcases values.lookup root with _ | value
    · rfl
    · cases value <;> rfl
  have hstatic : ∀ child ∈ children root (values.mapValues .static), IsStatic child.2 := by
    rintro ⟨path, p⟩ hchild
    obtain ⟨value, rfl, hsetting⟩ := exists_setting_of_mem_children hchild
    exact ⟨value, rfl, isProper_of_mem_settings hproper hsetting⟩
  have hreads := reads_parts (isProper_objectFields hproper root) hstatic fun path hpath => by
    obtain ⟨value, hsetting⟩ := exists_setting_of_mem_names hpath
    exact hspoken _ hsetting
  refine ⟨_, (lookup_collapse_root hmem).trans (congrArg some (objectOf_eq _ _)), ?_⟩
  rw [hbase]
  exact Literal.read_of_reads hreads

theorem nodup_names_root (hproper : (Json.obj values).isProper = true) :
    (children root (values.mapValues .static)).names.Nodup := by
  refine nodup_names_children root ?_
  rw [Entries.names_mapValues]
  exact (Json.isProper_obj_iff.mp hproper).1

section Root

variable (hproper : (Json.obj values).isProper = true)
  (hfree : ∀ setting ∈ settings values root, ∀ other ∈ settings values root, setting.1 <+: other.1 →
    setting.1 = other.1)

include hfree in
theorem path_eq_of_begins : ∀ path ∈ (children root (values.mapValues .static)).names,
    ∀ other ∈ (children root (values.mapValues .static)).names, segments path <+: segments other →
      path = other := by
  intro path hpath other hother hprefix
  obtain ⟨value, hsetting⟩ := exists_setting_of_mem_names hpath
  obtain ⟨value', hsetting'⟩ := exists_setting_of_mem_names hother
  exact segments_inj (hfree _ hsetting _ hsetting' hprefix)

include hproper hfree

theorem follow_rootLiteral_place (h : (names, value) ∈ settings values root) :
    (rootLiteral values root).follow (place names) = some (ofJson value) := by
  obtain ⟨path, rfl, hchild⟩ := mem_settings_iff_mem_children.mp h
  exact follow_place (nodup_names_root hproper) (path_eq_of_begins hfree)
    (isProper_objectFields hproper root) hchild

theorem follow_rootLiteral_base (hne : names ≠ []) (hapart : ∀ setting ∈ settings values root,
      ¬ place setting.1 <+: names ∧ ¬ names <+: place setting.1) :
    (rootLiteral values root).follow names = ((baseOf values root).follow names).map ofJson := by
  refine follow_base (nodup_names_root hproper) (path_eq_of_begins hfree)
    (isProper_objectFields hproper root) hne fun path hpath => ?_
  obtain ⟨value, hsetting⟩ := exists_setting_of_mem_names hpath
  exact hapart _ hsetting

theorem follow_rootLiteral_long (h : (names, value) ∈ settings values root)
    (hlength : 2 < names.length) :
    (rootLiteral values root).follow names = ((baseOf values root).follow names).map ofJson := by
  have hdots : ∀ name ∈ names, '.' ∉ name.toList := by
    obtain ⟨path, rfl, _⟩ := mem_settings_iff_mem_children.mp h
    exact notMem_segments
  refine follow_rootLiteral_base hproper hfree (mem_settings_iff.mp h).1 fun other hother =>
    ⟨fun hplace => ?_, fun hplace => ?_⟩
  · by_cases hshort : other.1.length ≤ 2
    · rw [place_of_length_le hshort] at hplace
      rw [hfree _ hother _ h hplace] at hshort
      exact absurd hshort (Nat.not_le.mpr hlength)
    · exact not_reaches_place (Nat.lt_of_not_le hshort) hdots hplace
  · have hle := hplace.length_le.trans (length_place_le other.1)
    omega

theorem follow_rootLiteral_iff (h : (names, value) ∈ settings values root) :
    (rootLiteral values root).follow names = some (ofJson value) ↔
      names.length ≤ 2 ∨ (baseOf values root).follow names = some value := by
  by_cases hshort : names.length ≤ 2
  · have hplace := follow_rootLiteral_place hproper hfree h
    rw [place_of_length_le hshort] at hplace
    simp [hplace, hshort]
  · rw [follow_rootLiteral_long hproper hfree h (Nat.lt_of_not_le hshort), or_iff_right hshort,
      Option.map_eq_some_iff]
    constructor
    · rintro ⟨other, hother, heq⟩
      have hother' := Json.isProper_follow (isProper_objectFields hproper root) hother
      rw [hother, Literal.ofJson_inj hother' (isProper_of_mem_settings hproper h) heq]
    · exact fun hvalue => ⟨value, hvalue, rfl⟩

end Root

/-- The object of a root, when it is read: each value stands at its place, so that its names lead
to it exactly if they are at most two or the base has it there already, and everything apart is as
the base has it. No name of the root continues another one, and none that would be taken for an
identifier has a line break. The reader takes `__proto__` for a property like any other. -/
theorem follow_collapse (hproper : (Json.obj values).isProper = true)
    (hroot : settings values root ≠ [])
    (hfree : ∀ setting ∈ settings values root, ∀ other ∈ settings values root,
      setting.1 <+: other.1 →
      setting.1 = other.1)
    (hspoken : ∀ setting ∈ settings values root, ∀ name ∈ place setting.1, IsSpoken name) :
    ∃ text literal, (collapse (values.mapValues .static)).lookup root = some (.expr text) ∧
      Literal.read text = some literal ∧
      (∀ path value, (path, value) ∈ settings values root →
        literal.follow (place path) = some (.ofJson value) ∧
        (literal.follow path = some (.ofJson value) ↔
          path.length ≤ 2 ∨ (baseOf values root).follow path = some value)) ∧
      ∀ path, path ≠ [] → (∀ setting ∈ settings values root,
          ¬ setting.1 <+: path ∧ ¬ path <+: setting.1 ∧ ¬ place setting.1 <+: path) →
        literal.follow path = ((baseOf values root).follow path).map .ofJson := by
  obtain ⟨text, hlookup, hread⟩ := read_collapse hproper hroot hspoken
  refine ⟨text, rootLiteral values root, hlookup, hread, fun path value hsetting => ?_,
    fun path hne hapart => ?_⟩
  · exact ⟨follow_rootLiteral_place hproper hfree hsetting,
      follow_rootLiteral_iff hproper hfree hsetting⟩
  · refine follow_rootLiteral_base hproper hfree hne fun setting hsetting => ?_
    obtain ⟨_, hbefore, hplace⟩ := hapart setting hsetting
    exact ⟨hplace, fun hprefix => (begins_or_reaches_place hne hprefix).elim hbefore hplace⟩

def mixed : Entries Json :=
  [("body", .obj [("user", .obj [("id", .int 7)])]), ("body.user.name", .str "Ada"),
    ("body.tags", .arr []), ("body.meta.source.url", .str "/in")]

theorem follow_collapse_mixed :
    ∃ text literal, (collapse (mixed.mapValues .static)).lookup "body" = some (.expr text) ∧
    Literal.read text = some literal ∧
    literal.follow ["user", "name"] = some (ofJson (.str "Ada")) ∧
    literal.follow ["tags"] = some (ofJson (.arr [])) ∧
    literal.follow ["user", "id"] = some (ofJson (.int 7)) ∧
    literal.follow ["meta", "source.url"] = some (ofJson (.str "/in")) ∧
    literal.follow ["meta", "source", "url"] ≠ some (ofJson (.str "/in")) := by
  obtain ⟨text, literal, hlookup, hread, hsettings, hbase⟩ :=
    @follow_collapse "body" mixed (by decide) (by decide)
    (by decide) (by decide)
  have hname := (hsettings ["user", "name"] (.str "Ada") (by decide)).2.mpr (.inl (by decide))
  have htags := (hsettings ["tags"] (.arr []) (by decide)).2.mpr (.inl (by decide))
  have hid := hbase ["user", "id"] (by decide) (by decide)
  obtain ⟨hurl, hlong⟩ := hsettings ["meta", "source", "url"] (.str "/in") (by decide)
  have hplace : place ["meta", "source", "url"] = ["meta", "source.url"] := by decide
  have hother : ¬ (["meta", "source", "url"].length ≤ 2 ∨
      (baseOf mixed "body").follow ["meta", "source", "url"] = some (.str "/in")) := by decide
  rw [hplace] at hurl
  exact ⟨text, literal, hlookup, hread, hname, htags, hid, hurl, mt hlong.mp hother⟩

/-- A third name is part of the second one, and a line break after an identifier is lost. -/
theorem misplaced_collapse : (∃ text literal,
      (collapse [("body.a.b.c", .static (.int 1))]).lookup "body" = some (.expr text) ∧
      Literal.read text = some literal ∧ literal.follow ["a", "b", "c"] = none) ∧
    ∃ text literal, (collapse [("body.a\n", .static (.int 1))]).lookup "body" = some (.expr text) ∧
      Literal.read text = some literal ∧ literal.follow ["a\n"] = none := by
  refine ⟨⟨"(\x7ba: \x7b\"b.c\": 1\x7d\x7d)", _, ?_, rfl, rfl⟩, "(\x7ba\n: 1\x7d)", _, ?_, rfl, rfl⟩
  · decide +kernel
  · decide +kernel

end Flowplan.Params
