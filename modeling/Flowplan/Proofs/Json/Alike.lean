import Flowplan.Proofs.Entries
import Flowplan.Proofs.Number.Reading

namespace Flowplan.Json

@[elab_as_elim]
theorem induction {motive : Json → Prop} (null : motive .null)
    (bool : ∀ value, motive (.bool value)) (int : ∀ value, motive (.int value))
    (float : ∀ value, motive (.float value)) (str : ∀ value, motive (.str value))
    (arr : ∀ items, (∀ x ∈ items, motive x) → motive (.arr items))
    (obj : ∀ fields, (∀ field ∈ fields, motive field.2) → motive (.obj fields)) (value : Json) :
    motive value :=
  @Json.rec motive (fun items => ∀ x ∈ items, motive x) (fun fields => ∀ field ∈ fields,
    motive field.2) (fun field => motive field.2) null bool int float str arr obj
    (fun _ h => absurd h List.not_mem_nil) (fun _ _ hx hxs => List.forall_mem_cons.mpr ⟨hx, hxs⟩)
    (fun _ h => absurd h List.not_mem_nil) (fun _ _ hx hxs => List.forall_mem_cons.mpr ⟨hx, hxs⟩)
    (fun _ _ hx => hx) value

mutual

def isProper : Json → Bool
  | .float x => x.isProper
  | .arr items => isProperItems items
  | .obj fields => decide (Entries.names fields).Nodup && isProperFields fields
  | _ => true
termination_by structural j => j

def isProperItems : List Json → Bool
  | [] => true
  | x :: xs => isProper x && isProperItems xs
termination_by structural j => j

def isProperFields : List (String × Json) → Bool
  | [] => true
  | x :: xs => isProperField x && isProperFields xs
termination_by structural j => j

def isProperField : String × Json → Bool
  | (_, x) => isProper x
termination_by structural j => j

end

theorem isProper_arr_iff {items : List Json} :
    (arr items).isProper = true ↔ ∀ x ∈ items, x.isProper = true := by
  rw [isProper]
  induction items with
  | nil => simp [isProperItems]
  | cons x items ih => simp [isProperItems, ih]

theorem isProper_obj_iff {fields : Entries Json} : (obj fields).isProper = true ↔
    fields.names.Nodup ∧ ∀ field ∈ fields, field.2.isProper = true := by
  have hfields : isProperFields fields = true ↔ ∀ field ∈ fields, field.2.isProper = true := by
    induction fields with
    | nil => simp [isProperFields]
    | cons field fields ih =>
      obtain ⟨name, x⟩ := field
      simp [isProperFields, isProperField, ih]
  rw [isProper, Bool.and_eq_true, decide_eq_true_eq, hfields]

mutual

inductive Alike : Json → Json → Prop
  | null : Alike .null .null
  | bool (value) : Alike (.bool value) (.bool value)
  | int (value) : Alike (.int value) (.int value)
  | float (value) : Alike (.float value) (.float value)
  | str (value) : Alike (.str value) (.str value)
  | arr {items others} : List.Forall₂ Alike items others → Alike (.arr items) (.arr others)
  | obj {fields middle others} : List.Forall₂ FieldAlike fields middle → middle.Perm others →
    Alike (.obj fields) (.obj others)

inductive FieldAlike : String × Json → String × Json → Prop
  | mk (name) {value other} : Alike value other → FieldAlike (name, value) (name, other)

end

theorem fieldAlike_iff {field field' : String × Json} :
    FieldAlike field field' ↔ field.1 = field'.1 ∧ field.2.Alike field'.2 := by
  constructor
  · rintro ⟨name, h⟩
    exact ⟨rfl, h⟩
  · obtain ⟨name, value⟩ := field
    obtain ⟨name', value'⟩ := field'
    rintro ⟨rfl, h⟩
    exact .mk name h

@[simp] theorem alike_obj_iff {fields others : Entries Json} :
    (obj fields).Alike (.obj others) ↔ Entries.Rel Alike fields others := by
  constructor
  · rintro (_ | _ | _ | _ | _ | _ | ⟨hmiddle, hperm⟩)
    exact ⟨_, hmiddle.imp fun _ _ => fieldAlike_iff.mp, hperm⟩
  · rintro ⟨middle, hmiddle, hperm⟩
    exact .obj (hmiddle.imp fun _ _ => fieldAlike_iff.mpr) hperm

@[simp] theorem alike_bool_iff {value other : Bool} :
    (bool value).Alike (.bool other) ↔ value = other :=
  ⟨fun h => by cases h; rfl, fun h => h ▸ .bool value⟩

@[simp] theorem alike_int_iff {value other : Int} :
    (int value).Alike (.int other) ↔ value = other :=
  ⟨fun h => by cases h; rfl, fun h => h ▸ .int value⟩

@[simp] theorem alike_str_iff {value other : String} :
    (str value).Alike (.str other) ↔ value = other :=
  ⟨fun h => by cases h; rfl, fun h => h ▸ .str value⟩

@[simp] theorem alike_arr_iff {items others : List Json} :
    (arr items).Alike (.arr others) ↔ List.Forall₂ Alike items others :=
  ⟨fun h => by cases h with | arr h => exact h, .arr⟩

end Flowplan.Json
