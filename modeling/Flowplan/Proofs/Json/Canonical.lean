import Flowplan.Proofs.Json.Compact

namespace Flowplan.Json

theorem canonicalItems_eq_map (items : List Json) : canonicalItems items = items.map canonical := by
  induction items with
  | nil => rfl
  | cons x items ih => rw [canonicalItems, ih, List.map_cons]

theorem canonicalFields_eq_mapValues (fields : Entries Json) :
    canonicalFields fields = Entries.mapValues canonical fields := by
  induction fields with
  | nil => rfl
  | cons field fields ih =>
    rw [canonicalFields, ih, Entries.mapValues, Entries.mapValues, List.map_cons, canonicalField]

variable {fields others : Entries Json}

theorem insertField_perm (field : String × Json) (fields : Entries Json) :
    (insertField field fields).Perm (field :: fields) := by
  induction fields with
  | nil => rfl
  | cons other rest ih =>
    rw [insertField]
    split
    · exact (ih.cons other).trans (.swap field other rest)
    · rfl

theorem sortFields_perm (fields : Entries Json) : (sortFields fields).Perm fields := by
  induction fields with
  | nil => rfl
  | cons field fields ih => exact (insertField_perm field _).trans (ih.cons field)

def Sorted (fields : Entries Json) : Prop := fields.Pairwise fun field other => field.1 ≤ other.1

theorem Sorted.insertField (h : Sorted fields) (field : String × Json) :
    Sorted (insertField field fields) := by
  induction fields with
  | nil => exact List.pairwise_singleton _ _
  | cons other rest ih =>
    obtain ⟨hother, hrest⟩ := List.pairwise_cons.mp h
    rw [Json.insertField]
    split
    · next hlt =>
      refine List.pairwise_cons.mpr ⟨fun x hx => ?_, ih hrest⟩
      rcases List.mem_cons.mp ((insertField_perm field rest).mem_iff.mp hx) with rfl | hx
      · exact String.not_lt.mp (String.lt_asymm hlt)
      · exact hother x hx
    · next hle =>
      refine List.pairwise_cons.mpr ⟨fun x hx => ?_, h⟩
      rcases List.mem_cons.mp hx with rfl | hx
      · exact String.not_lt.mp hle
      · exact String.le_trans (String.not_lt.mp hle) (hother x hx)

theorem sorted_sortFields (fields : Entries Json) : Sorted (sortFields fields) := by
  induction fields with
  | nil => exact .nil
  | cons field fields ih => exact ih.insertField field

theorem sortFields_eq_of_perm (hperm : fields.Perm others) (hnames : (Entries.names fields).Nodup) :
    sortFields fields = sortFields others := by
  have hsame : (sortFields fields).Perm (sortFields others) :=
    (sortFields_perm fields).trans (hperm.trans (sortFields_perm others).symm)
  refine List.Perm.eq_of_pairwise ?_ (sorted_sortFields fields) (sorted_sortFields others) hsame
  intro field other hfield hother hle hle'
  replace hfield := (sortFields_perm fields).mem_iff.mp hfield
  replace hother := hperm.mem_iff.mpr ((sortFields_perm others).mem_iff.mp hother)
  exact List.inj_on_of_nodup_map hnames hfield hother (String.le_antisymm hle hle')

theorem canonical_arr (items : List Json) : (arr items).canonical = .arr (items.map canonical) := by
  rw [canonical, canonicalItems_eq_map]

theorem canonical_obj (fields : Entries Json) :
    (obj fields).canonical = .obj (sortFields (Entries.mapValues canonical fields)) := by
  rw [canonical, canonicalFields_eq_mapValues]

theorem isProper_canonical {value : Json} (h : value.isProper = true) :
    value.canonical.isProper = true := by
  induction value using induction with
  | arr items ih =>
    rw [isProper_arr_iff] at h
    rw [canonical_arr, isProper_arr_iff]
    exact List.forall_mem_map.mpr fun x hx => ih x hx (h x hx)
  | obj fields ih =>
    obtain ⟨hnames, hfields⟩ := isProper_obj_iff.mp h
    rw [canonical_obj, isProper_obj_iff]
    have hperm := sortFields_perm (Entries.mapValues canonical fields)
    refine ⟨?_, fun field hfield => ?_⟩
    · rw [← Entries.names_mapValues canonical] at hnames
      exact (hperm.map Prod.fst).nodup_iff.mpr hnames
    · obtain ⟨before, hbefore, rfl⟩ := List.mem_map.mp (hperm.mem_iff.mp hfield)
      exact ih before hbefore (hfields before hbefore)
  | _ => exact h

theorem exists_middle_of_perm
    (h : (Entries.mapValues canonical fields).Perm (Entries.mapValues canonical others)) :
    ∃ middle, List.Forall₂ (fun field field' => field.1 = field'.1 ∧
      field.2.canonical = field'.2.canonical)
      fields middle ∧ middle.Perm others := by
  have hothers : List.Forall₂ (fun x (field : String × Json) => x = (field.1, field.2.canonical))
      (Entries.mapValues canonical others) others :=
    List.forall₂_map_left_iff.mpr (List.forall₂_same.mpr fun _ _ => rfl)
  have hcomp : Relation.Comp List.Perm
      (List.Forall₂ fun x (field : String × Json) => x = (field.1, field.2.canonical))
      (Entries.mapValues canonical fields) others := ⟨_, h, hothers⟩
  rw [← List.forall₂_comp_perm_eq_perm_comp_forall₂] at hcomp
  obtain ⟨middle, hmiddle, hperm⟩ := hcomp
  exact ⟨middle, (List.forall₂_map_left_iff.mp hmiddle).imp fun _ _ heq => Prod.mk.inj heq, hperm⟩

theorem map_eq_map_iff_forall₂ {α β : Type} {f : α → β} {xs ys : List α} :
    xs.map f = ys.map f ↔ List.Forall₂ (fun x y => f x = f y) xs ys := by
  rw [← List.forall₂_eq_eq_eq, List.forall₂_map_left_iff, List.forall₂_map_right_iff]

theorem alike_of_canonical_eq {value other : Json} (h : value.canonical = other.canonical) :
    value.Alike other := by
  induction value using induction generalizing other with
  | arr items ih =>
    cases other with
    | arr others =>
      rw [canonical_arr, canonical_arr] at h
      have hitems := map_eq_map_iff_forall₂.mp (arr.inj h)
      exact .arr (((List.forall₂_and_left _ _).mpr ⟨@ih, hitems⟩).imp fun x y hxy => hxy.1 hxy.2)
    | _ => simp [canonical] at h
  | obj fields ih =>
    cases other with
    | obj others =>
      rw [canonical_obj, canonical_obj] at h
      have hperm : (Entries.mapValues canonical fields).Perm (Entries.mapValues canonical others) :=
        (sortFields_perm _).symm.trans (obj.inj h ▸ sortFields_perm _)
      obtain ⟨middle, hmiddle, hperm⟩ := exists_middle_of_perm hperm
      refine .obj
        (((List.forall₂_and_left _ _).mpr ⟨@ih, hmiddle⟩).imp fun field field' hfield => ?_) hperm
      exact fieldAlike_iff.mpr ⟨hfield.2.1, hfield.1 hfield.2.2⟩
    | _ => simp [canonical] at h
  | null =>
    cases other <;> simp [canonical] at h
    exact .null
  | bool value | int value | float value | str value =>
    cases other <;> simp [canonical] at h
    subst h
    constructor

theorem canonical_eq_of_alike {value other : Json} (hproper : value.isProper = true)
    (h : value.Alike other) : value.canonical = other.canonical := by
  induction value using induction generalizing other with
  | arr items ih =>
    obtain _ | _ | _ | _ | _ | hitems | _ := h
    rw [isProper_arr_iff] at hproper
    have hsame := ((List.forall₂_and_left _ _).mpr
      ⟨fun x hx other => @ih x hx other (hproper x hx), hitems⟩).imp fun x y hxy => hxy.1 y hxy.2
    rw [canonical_arr, canonical_arr, map_eq_map_iff_forall₂.mpr hsame]
  | obj fields ih =>
    obtain _ | _ | _ | _ | _ | _ | @⟨_, middle, others, hmiddle, hperm⟩ := h
    obtain ⟨hnames, hfields⟩ := isProper_obj_iff.mp hproper
    have hih : ∀ field ∈ fields, ∀ field', FieldAlike field field' →
        (field.1, field.2.canonical) = (field'.1, field'.2.canonical) := by
      intro field hfield field' halike
      obtain ⟨hname, halike⟩ := fieldAlike_iff.mp halike
      rw [hname, ih field hfield (hfields field hfield) halike]
    have hsame : Entries.mapValues canonical fields = Entries.mapValues canonical middle :=
      map_eq_map_iff_forall₂.mpr
        (((List.forall₂_and_left _ _).mpr ⟨hih, hmiddle⟩).imp fun _ _ h => h.1 _ h.2)
    rw [← Entries.names_mapValues canonical, hsame] at hnames
    rw [canonical_obj, canonical_obj, hsame]
    exact congrArg Json.obj (sortFields_eq_of_perm (hperm.map _) hnames)
  | _ =>
    cases h
    rfl

theorem alike_of_canonicalText_eq {value other : Json} (hproper : value.isProper = true)
    (hproper' : other.isProper = true) (h : value.canonicalText = other.canonicalText) :
    value.Alike other :=
  alike_of_canonical_eq
    (eq_of_print_eq (isProper_canonical hproper) (isProper_canonical hproper') h)

/-- The canonical text is canonical and unambiguous: two values have the same one exactly when they
differ at most in the order of the names in their objects, at any depth. -/
theorem canonicalText_eq_iff {value other : Json} (hproper : value.isProper = true)
    (hproper' : other.isProper = true) :
    value.canonicalText = other.canonicalText ↔ value.Alike other :=
  ⟨alike_of_canonicalText_eq hproper hproper',
    fun h => congrArg (print .compact) (canonical_eq_of_alike hproper h)⟩

def floatOne : Json := .float ⟨0x3FF0000000000000⟩

theorem canonicalText_eq_iff_one :
    (obj [("unit", .int 1), ("steps", .arr [.null, floatOne])]).Alike
      (.obj [("steps", .arr [.null, floatOne]), ("unit", .int 1)]) ∧
    ¬ (Json.int 1).Alike floatOne :=
  ⟨(canonicalText_eq_iff (by decide +kernel) (by decide +kernel)).mp (by decide +kernel),
    (canonicalText_eq_iff (by decide) (by decide +kernel)).not.mp (by decide +kernel)⟩

end Flowplan.Json
