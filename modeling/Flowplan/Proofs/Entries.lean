import Flowplan.Entries
import Mathlib.Data.List.Forall2
import Mathlib.Data.List.Nodup
import Mathlib.Data.List.Perm.Basic
import Mathlib.Data.Option.Defs

namespace Flowplan.Entries

variable {α β γ δ : Type} {entries more : Entries α} {name other : String} {value : α}

@[simp] theorem names_nil : names ([] : Entries α) = [] := rfl

@[simp] theorem names_cons (entry : String × α) (entries : Entries α) :
    names (entry :: entries) = entry.1 :: entries.names := rfl

@[simp] theorem names_append (entries more : Entries α) :
    names (entries ++ more) = entries.names ++ more.names := List.map_append

theorem lookup_cons (entry : String × α) (entries : Entries α) (name : String) :
    List.lookup name (entry :: entries) = if name = entry.1 then some entry.2
    else entries.lookup name := by
  obtain ⟨other, value⟩ := entry
  rw [List.lookup_cons]
  split
  · next h => rw [if_pos (eq_of_beq h)]
  · next h => rw [if_neg (beq_eq_false_iff_ne.mp h)]

theorem mem_names_iff : name ∈ entries.names ↔ (entries.lookup name).isSome = true := by
  rw [List.lookup_isSome_iff, names, List.mem_map]
  exact exists_congr fun entry => and_congr_right fun _ => by rw [beq_iff_eq, eq_comm]

theorem lookup_eq_none_iff : entries.lookup name = none ↔ name ∉ entries.names := by
  rw [mem_names_iff, Option.not_isSome_iff_eq_none]

theorem has_eq (entries : Entries α) (name : String) :
    entries.has name = decide (name ∈ entries.names) := by
  rw [Bool.eq_iff_iff, decide_eq_true_eq, has, List.any_eq_true, names, List.mem_map]
  exact exists_congr fun entry => and_congr_right fun _ => beq_iff_eq

theorem mem_of_lookup (h : entries.lookup name = some value) : (name, value) ∈ entries := by
  obtain ⟨before, after, rfl, _⟩ := List.lookup_eq_some_iff.mp h
  simp

theorem lookup_eq_some_iff (hnodup : entries.names.Nodup) :
    entries.lookup name = some value ↔ (name, value) ∈ entries := by
  refine ⟨mem_of_lookup, fun hmem => ?_⟩
  have hsome : (entries.lookup name).isSome = true := mem_names_iff.mp (List.mem_map_of_mem hmem)
  obtain ⟨found, hfound⟩ := Option.isSome_iff_exists.mp hsome
  have heq := List.inj_on_of_nodup_map hnodup (mem_of_lookup hfound) hmem rfl
  rw [hfound, (Prod.mk.inj heq).2]

theorem lookup_eq_of_perm {others : Entries α} (hnodup : entries.names.Nodup)
    (h : entries.Perm others) : entries.lookup name = others.lookup name := by
  have hnodup' : (names others).Nodup := (h.map Prod.fst).nodup_iff.mp hnodup
  refine Option.ext fun value => ?_
  rw [lookup_eq_some_iff hnodup, lookup_eq_some_iff hnodup', h.mem_iff]

theorem perm_of_lookup_eq {others : Entries α} (hnodup : entries.names.Nodup)
    (hnodup' : others.names.Nodup) (h : ∀ name, entries.lookup name = others.lookup name) :
    entries.Perm others := by
  refine (List.perm_ext_iff_of_nodup hnodup.of_map hnodup'.of_map).mpr fun entry => ?_
  obtain ⟨name, value⟩ := entry
  rw [← lookup_eq_some_iff hnodup, ← lookup_eq_some_iff hnodup', h]

@[simp] theorem names_mapValues (f : α → β) (entries : Entries α) :
    (entries.mapValues f).names = entries.names := by
  simp [mapValues, names]

theorem lookup_mapValues (f : α → β) (entries : Entries α) (name : String) :
    (entries.mapValues f).lookup name = (entries.lookup name).map f := by
  induction entries with
  | nil => rfl
  | cons entry entries ih =>
    obtain ⟨other, value⟩ := entry
    rw [mapValues, List.map_cons, lookup_cons, lookup_cons]
    dsimp only
    split
    · rfl
    · exact ih

theorem lookup_filter (p : String → Bool) (entries : Entries α) (name : String) :
    (entries.filter fun entry => p entry.1).lookup name = if p name then entries.lookup name
    else none := by
  induction entries with
  | nil => simp
  | cons entry entries ih =>
    by_cases hname : name = entry.1
    · subst hname
      by_cases hp : p entry.1 <;> simp [hp, lookup_cons, ih]
    · by_cases hp : p entry.1 <;> simp [hp, lookup_cons, ih, hname]

theorem mem_names_filter (p : String → Bool) (entries : Entries α) (name : String) :
    name ∈ names (entries.filter fun entry => p entry.1) ↔
      name ∈ entries.names ∧ p name = true := by
  rw [mem_names_iff, lookup_filter, mem_names_iff]
  split <;> simp [*]

theorem mem_mapValues {f : α → β} (h : (name, value) ∈ entries) :
    (name, f value) ∈ entries.mapValues f :=
  List.mem_map_of_mem (f := fun entry => (entry.1, f entry.2)) h

theorem mem_names_put :
    name ∈ (put other value entries).names ↔ name = other ∨ name ∈ entries.names := by
  by_cases h : name = other
  · subst h
    simp [mem_names_iff]
  · rw [mem_names_iff, lookup_put_of_ne h, mem_names_iff, or_iff_right h]

theorem mem_of_mem_put {entry : String × α} (h : entry ∈ put name value entries) :
    entry ∈ entries ∨ entry = (name, value) := by
  induction entries with
  | nil => exact .inr (List.mem_singleton.mp h)
  | cons first entries ih =>
    rw [put] at h
    split at h
    · exact (List.mem_cons.mp h).elim .inr fun h => .inl (.tail first h)
    · rcases List.mem_cons.mp h with rfl | h
      · exact .inl List.mem_cons_self
      · exact (ih h).imp_left (.tail first)

theorem nodup_names_put (h : entries.names.Nodup) : (put name value entries).names.Nodup := by
  induction entries with
  | nil => simp [names]
  | cons entry entries ih =>
    obtain ⟨other, old⟩ := entry
    obtain ⟨hother, hrest⟩ := List.nodup_cons.mp h
    rw [put]
    split
    · next heq => exact eq_of_beq heq ▸ h
    · next hne =>
      refine List.nodup_cons.mpr ⟨fun hmem => ?_, ih hrest⟩
      rcases mem_names_put.mp hmem with heq | hmem
      · exact hne (beq_iff_eq.mpr heq)
      · exact hother hmem

theorem putAll_cons (entries more : Entries α) (entry : String × α) :
    entries.putAll (entry :: more) = (entries.put entry.1 entry.2).putAll more :=
  rfl

theorem mem_names_foldl_put {items : Entries α} {others : Entries β}
    (value : Entries β → String × α → β) :
    name ∈ names (items.foldl (fun others item => others.put item.1 (value others item)) others) ↔
      name ∈ others.names ∨ name ∈ items.names := by
  induction items generalizing others with
  | nil => simp [names]
  | cons item items ih =>
    rw [List.foldl_cons, ih, mem_names_put]
    simp only [names, List.map_cons, List.mem_cons]
    rw [← or_assoc, or_comm (a := name ∈ _)]

theorem mem_names_putAll :
    name ∈ (entries.putAll more).names ↔ name ∈ entries.names ∨ name ∈ more.names :=
  mem_names_foldl_put fun _ entry => entry.2

theorem mem_of_mem_putAll {entry : String × α} (h : entry ∈ entries.putAll more) :
    entry ∈ entries ∨ entry ∈ more := by
  induction more generalizing entries with
  | nil => exact .inl h
  | cons first more ih =>
    rcases ih h with h | h
    · exact (mem_of_mem_put h).imp_right fun heq => List.mem_cons.mpr (.inl heq)
    · exact .inr (.tail first h)

theorem nodup_names_putAll (h : entries.names.Nodup) : (entries.putAll more).names.Nodup := by
  induction more generalizing entries with
  | nil => exact h
  | cons entry more ih => exact ih (nodup_names_put h)

theorem lookup_putAll_of_notMem (h : name ∉ more.names) :
    (entries.putAll more).lookup name = entries.lookup name := by
  induction more generalizing entries with
  | nil => rfl
  | cons entry more ih =>
    obtain ⟨hne, hmore⟩ : name ≠ entry.1 ∧ name ∉ names more := by simpa [names] using h
    rw [putAll_cons, ih hmore, lookup_put_of_ne hne]

theorem lookup_putAll (hnodup : more.names.Nodup) :
    (entries.putAll more).lookup name = (more.lookup name).or (entries.lookup name) := by
  induction more generalizing entries with
  | nil => rfl
  | cons entry more ih =>
    obtain ⟨hentry, hmore⟩ := List.nodup_cons.mp hnodup
    rw [putAll_cons, ih hmore, lookup_cons]
    split
    · next heq =>
      subst heq
      rw [lookup_put, lookup_eq_none_iff.mpr hentry, Option.none_or, Option.some_or]
    · next hne => rw [lookup_put_of_ne hne]

theorem mapValues_put (f : α → β) (name : String) (value : α) (entries : Entries α) :
    (entries.put name value).mapValues f = (entries.mapValues f).put name (f value) := by
  induction entries with
  | nil => rfl
  | cons entry entries ih =>
    rw [put]
    by_cases h : entry.1 == name
    · simp [mapValues, put, h]
    · simpa [mapValues, put, h] using ih

theorem put_of_notMem (h : name ∉ entries.names) :
    entries.put name value = entries ++ [(name, value)] := by
  induction entries with
  | nil => rfl
  | cons entry entries ih =>
    obtain ⟨hne, hrest⟩ : name ≠ entry.1 ∧ name ∉ names entries := by simpa using h
    rw [put, if_neg (by simpa using Ne.symm hne), ih hrest]
    rfl

theorem putAll_append (entries more others : Entries α) :
    entries.putAll (more ++ others) = (entries.putAll more).putAll others :=
  List.foldl_append

theorem putAll_eq_append (h : (entries ++ more).names.Nodup) :
    entries.putAll more = entries ++ more := by
  induction more generalizing entries with
  | nil => exact (List.append_nil entries).symm
  | cons entry more ih =>
    have hnotMem : entry.1 ∉ entries.names := fun hmem => by
      rw [names_append, List.nodup_append] at h
      exact h.2.2 _ hmem _ List.mem_cons_self rfl
    rw [putAll_cons, put_of_notMem hnotMem, ih (by simpa using h), List.append_assoc]
    rfl

def Rel (R : α → β → Prop) (entries : Entries α) (others : Entries β) : Prop :=
  ∃ middle : Entries β, List.Forall₂ (fun entry other => entry.1 = other.1 ∧
    R entry.2 other.2) entries middle ∧
    middle.Perm others

section Related

variable {R : α → β → Prop} {others middle : Entries β}

theorem names_eq_of_forall₂
    (h : List.Forall₂ (fun entry other => entry.1 = other.1 ∧ R entry.2 other.2) entries middle) :
    entries.names = names middle := by
  induction h with
  | nil => rfl
  | cons hentry _ ih => exact congrArg₂ List.cons hentry.1 ih

theorem Rel.names_perm (h : Rel R entries others) : entries.names.Perm others.names := by
  obtain ⟨middle, hmiddle, hperm⟩ := h
  exact names_eq_of_forall₂ hmiddle ▸ hperm.map Prod.fst

theorem Rel.lookup (h : Rel R entries others) (hnodup : entries.names.Nodup) (name : String) :
    Option.Rel R (entries.lookup name) (others.lookup name) := by
  obtain ⟨middle, hmiddle, hperm⟩ := h
  rw [← lookup_eq_of_perm (names_eq_of_forall₂ hmiddle ▸ hnodup) hperm]
  clear hnodup hperm
  induction hmiddle with
  | nil => exact .none
  | @cons entry other entries middle hentry _ ih =>
    rw [lookup_cons, lookup_cons, hentry.1]
    split
    · exact .some hentry.2
    · exact ih

@[simp] theorem rel_nil_iff : Rel R ([] : Entries α) ([] : Entries β) ↔ True :=
  iff_true_intro ⟨[], .nil, .nil⟩

@[simp] theorem rel_cons_iff {value' : β} (h : name ∉ entries.names) :
    Rel R ((name, value) :: entries) ((name, value') :: others) ↔
      R value value' ∧ Rel R entries others := by
  constructor
  · rintro ⟨_, hmiddle, hperm⟩
    cases hmiddle with
    | @cons _ found _ middle hfound hrest =>
      obtain ⟨found, value''⟩ := found
      obtain ⟨rfl, hvalue⟩ : name = found ∧ R value value'' := hfound
      -- nothing else on the left has the name, so the first entries belong together
      obtain rfl : value' = value'' := by
        have hmem : (name, value') ∈ (name, value'') :: middle :=
          hperm.mem_iff.mpr List.mem_cons_self
        rcases List.mem_cons.mp hmem with heq | hmem
        · exact (Prod.mk.inj heq).2
        · exact absurd (names_eq_of_forall₂ hrest ▸ List.mem_map_of_mem hmem) h
      exact ⟨hvalue, middle, hrest, hperm.cons_inv⟩
  · rintro ⟨hvalue, middle, hmiddle, hperm⟩
    exact ⟨(name, value') :: middle, .cons ⟨rfl, hvalue⟩ hmiddle, hperm.cons _⟩

theorem exists_mapValues_of_perm {f : α → β} (h : others.Perm (entries.mapValues f)) :
    ∃ found : Entries α, others = found.mapValues f ∧ found.Perm entries := by
  have hback : List.Forall₂
      (fun (field : String × β) (entry : String × α) => field = (entry.1, f entry.2))
      (entries.mapValues f) entries :=
    List.forall₂_map_left_iff.mpr (List.forall₂_same.mpr fun _ _ => rfl)
  obtain ⟨found, hfound, hperm⟩ := List.perm_comp_forall₂ h hback
  exact ⟨found, List.forall₂_eq_eq_eq ▸ List.forall₂_map_right_iff.mpr hfound, hperm⟩

theorem rel_mapValues_iff {S : γ → δ → Prop} {f : α → γ} {g : β → δ} :
    Rel S (entries.mapValues f) (others.mapValues g) ↔
      Rel (fun a b => S (f a) (g b)) entries others := by
  constructor
  · rintro ⟨_, hmapped, hperm⟩
    obtain ⟨middle, rfl, hmiddle⟩ := exists_mapValues_of_perm hperm
    exact ⟨middle, List.forall₂_map_right_iff.mp (List.forall₂_map_left_iff.mp hmapped), hmiddle⟩
  · rintro ⟨middle, hmiddle, hperm⟩
    exact ⟨middle.mapValues g,
      List.forall₂_map_left_iff.mpr (List.forall₂_map_right_iff.mpr hmiddle), hperm.map _⟩

end Related

/-- Entries with the same names, each once, and related values under those that are not exempt. -/
structure Agree (R : α → β → Prop) (exempt : String → Prop) (entries : Entries α)
    (others : Entries β) : Prop where
  nodup : entries.names.Nodup
  names : entries.names.Perm others.names
  lookup : ∀ name, ¬ exempt name → Option.Rel R (entries.lookup name) (others.lookup name)

section Agreeing

variable {R : α → β → Prop} {exempt : String → Prop} {others : Entries β}

theorem Rel.agree (h : Rel R entries others) (hnodup : entries.names.Nodup) :
    Agree R exempt entries others := ⟨hnodup, h.names_perm, fun name _ => h.lookup hnodup name⟩

namespace Agree

theorem nodup_right (h : Agree R exempt entries others) : others.names.Nodup :=
  h.names.nodup_iff.mp h.nodup

theorem mem_names (h : Agree R exempt entries others) :
    name ∈ entries.names ↔ name ∈ others.names := h.names.mem_iff

theorem flip (h : Agree R exempt entries others) : Agree (flip R) exempt others entries := by
  refine ⟨h.nodup_right, h.names.symm, fun name hname => ?_⟩
  have hlookup := h.lookup name hname
  generalize entries.lookup name = value, others.lookup name = value' at hlookup
  cases hlookup with
  | some hvalue => exact .some hvalue
  | none => exact .none

theorem exists_right_of_mem (h : Agree R exempt entries others) (hname : ¬ exempt name)
    (hmem : (name, value) ∈ entries) : ∃ value', (name, value') ∈ others ∧ R value value' := by
  have hlookup := h.lookup name hname
  rw [(lookup_eq_some_iff h.nodup).mpr hmem] at hlookup
  cases hvalue' : others.lookup name with
  | none => simp [hvalue'] at hlookup
  | some value' => exact ⟨value', mem_of_lookup hvalue', by simpa [hvalue'] using hlookup⟩

theorem mono {exempt' : String → Prop} (h : Agree R exempt entries others)
    (himp : ∀ name, exempt name → exempt' name) : Agree R exempt' entries others :=
  ⟨h.nodup, h.names, fun name hname => h.lookup name fun hexempt => hname (himp name hexempt)⟩

theorem of_mem_iff (hnodup : entries.names.Nodup) (hnodup' : others.names.Nodup)
    (hmem : ∀ name, name ∈ entries.names ↔ name ∈ others.names)
    (hlookup : ∀ name, ¬ exempt name → Option.Rel R (entries.lookup name) (others.lookup name)) :
    Agree R exempt entries others :=
  ⟨hnodup, (List.perm_ext_iff_of_nodup hnodup hnodup').mpr hmem, hlookup⟩

theorem mapValues {S : γ → δ → Prop} {f : α → γ} {g : β → δ} (h : Agree R exempt entries others)
    (hvalues : ∀ value value', R value value' → S (f value) (g value')) :
    Agree S exempt (entries.mapValues f) (others.mapValues g) := by
  refine ⟨names_mapValues f entries ▸ h.nodup, ?_, fun name hname => ?_⟩
  · rw [names_mapValues, names_mapValues]
    exact h.names
  · rw [lookup_mapValues, lookup_mapValues]
    have hlookup := h.lookup name hname
    generalize entries.lookup name = value, others.lookup name = value' at hlookup
    cases hlookup with
    | some hvalue => exact .some (hvalues _ _ hvalue)
    | none => exact .none

theorem filter (h : Agree R exempt entries others) (p : String → Bool) :
    Agree R exempt (entries.filter fun entry => p entry.1)
      (others.filter fun entry => p entry.1) := by
  refine of_mem_iff (h.nodup.sublist (List.filter_sublist.map _))
    (h.nodup_right.sublist (List.filter_sublist.map _)) (fun name => ?_) fun name hname => ?_
  · rw [mem_names_filter, mem_names_filter, h.mem_names]
  · rw [lookup_filter, lookup_filter]
    split
    · exact h.lookup name hname
    · exact .none

theorem put {value' : β} (h : Agree R exempt entries others) (name : String)
    (hvalue : R value value') :
    Agree R exempt (entries.put name value) (others.put name value') := by
  refine of_mem_iff (nodup_names_put h.nodup) (nodup_names_put h.nodup_right) (fun other => ?_)
    fun other hother => ?_
  · rw [mem_names_put, mem_names_put, h.mem_names]
  · by_cases heq : other = name
    · subst heq
      rw [lookup_put, lookup_put]
      exact .some hvalue
    · rw [lookup_put_of_ne heq, lookup_put_of_ne heq]
      exact h.lookup other hother

theorem putAll {more' : Entries β} (h : Agree R exempt entries others)
    (hmore : Agree R exempt more more') :
    Agree R exempt (entries.putAll more) (others.putAll more') := by
  refine of_mem_iff (nodup_names_putAll h.nodup) (nodup_names_putAll h.nodup_right) (fun name => ?_)
    fun name hname => ?_
  · rw [mem_names_putAll, mem_names_putAll, h.mem_names, hmore.mem_names]
  · rw [lookup_putAll hmore.nodup, lookup_putAll hmore.nodup_right]
    have hlookup := h.lookup name hname
    have hlookup' := hmore.lookup name hname
    generalize more.lookup name = value, more'.lookup name = value' at hlookup'
    cases hlookup' with
    | some hvalue => exact .some hvalue
    | none => exact hlookup

end Agree

end Agreeing

end Flowplan.Entries
