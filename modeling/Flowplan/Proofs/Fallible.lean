import Mathlib.Data.List.Forall2

namespace Flowplan

universe u v

variable {ε : Type u} {α β : Type v}

@[simp] theorem bind_eq_ok_iff {x : Except ε α} {next : α → Except ε β} {b : β} :
    x >>= next = .ok b ↔ ∃ a, x = .ok a ∧ next a = .ok b := by
  constructor
  · intro h
    cases x with
    | error e => cases h
    | ok a => exact ⟨a, rfl, h⟩
  · rintro ⟨a, rfl, h⟩
    exact h

@[simp] theorem pure_eq_ok_iff {a b : α} : (pure a : Except ε α) = .ok b ↔ a = b := by
  simp [pure, Except.pure]

@[simp] theorem mapError_ok {ε' : Type u} (f : ε → ε') (a : α) : (Except.ok a).mapError f = .ok a :=
  rfl

@[simp] theorem mapError_error {ε' : Type u} (f : ε → ε') (e : ε) :
    (Except.error e : Except ε α).mapError f = .error (f e) :=
  rfl

theorem mapM_eq_ok_iff {f : α → Except ε β} {l : List α} {r : List β} :
    l.mapM f = .ok r ↔ List.Forall₂ (fun a b => f a = .ok b) l r := by
  induction l generalizing r with
  | nil => rw [List.mapM_nil, pure_eq_ok_iff, List.forall₂_nil_left_iff, eq_comm]
  | cons a l ih =>
    simp only [List.mapM_cons, bind_eq_ok_iff, pure_eq_ok_iff, ih]
    constructor
    · rintro ⟨b, hb, rest, hrest, rfl⟩
      exact .cons hb hrest
    · intro h
      cases h with
      | cons hb hrest => exact ⟨_, hb, _, hrest, rfl⟩

theorem mapM_eq_some_iff {f : α → Option β} {l : List α} {r : List β} :
    l.mapM f = some r ↔ List.Forall₂ (fun a b => f a = some b) l r := by
  induction l generalizing r with
  | nil => cases r <;> simp
  | cons a l ih => cases r <;> simp [List.mapM_cons, Option.bind_eq_some_iff, ih]

theorem mapM_congr {f g : α → Except ε β} {l : List α} (h : ∀ a ∈ l, f a = g a) :
    l.mapM f = l.mapM g := by
  induction l with
  | nil => rfl
  | cons a l ih =>
    rw [List.mapM_cons, List.mapM_cons, h a (.head l), ih fun b hb => h b (.tail a hb)]

theorem bind_eq_error_iff {x : Except ε α} {next : α → Except ε β} {e : ε} :
    x >>= next = .error e ↔ x = .error e ∨ ∃ a, x = .ok a ∧ next a = .error e := by
  constructor
  · intro h
    cases x with
    | error e' =>
      obtain rfl : e' = e := Except.error.inj h
      exact .inl rfl
    | ok a => exact .inr ⟨a, rfl, h⟩
  · rintro (rfl | ⟨a, rfl, h⟩)
    · rfl
    · exact h

@[simp] theorem pure_ne_error {a : α} {e : ε} : (pure a : Except ε α) ≠ .error e :=
  nofun

theorem bind_pure_eq_error_iff {x : Except ε α} {f : α → β} {e : ε} :
    (x >>= fun a => pure (f a)) = .error e ↔ x = .error e := by
  simp only [bind_eq_error_iff, pure_ne_error, and_false, exists_false, or_false]

theorem exists_error_of_mapM {f : α → Except ε β} {l : List α} {e : ε} (h : l.mapM f = .error e) :
    ∃ a ∈ l, f a = .error e := by
  induction l with
  | nil => cases h
  | cons a l ih =>
    rw [List.mapM_cons] at h
    obtain ha | ⟨b, -, hrest⟩ := bind_eq_error_iff.mp h
    · exact ⟨a, .head l, ha⟩
    · obtain ⟨a', hmem, ha'⟩ := ih (bind_pure_eq_error_iff.mp hrest)
      exact ⟨a', .tail a hmem, ha'⟩

section Related

variable {R : α → β → Prop} {as : List α} {bs : List β}

theorem exists_right_of_mem (h : List.Forall₂ R as bs) {a : α} (ha : a ∈ as) : ∃ b ∈ bs, R a b := by
  induction h with
  | nil => cases ha
  | cons hab _ ih =>
    cases ha with
    | head => exact ⟨_, .head _, hab⟩
    | tail _ ha =>
      obtain ⟨b, hb, hab⟩ := ih ha
      exact ⟨b, .tail _ hb, hab⟩

theorem exists_left_of_mem (h : List.Forall₂ R as bs) {b : β} (hb : b ∈ bs) : ∃ a ∈ as, R a b :=
  exists_right_of_mem h.flip hb

theorem forall₂_filter_filterMap {p : α → Bool} {found : List (Option β)}
    (h : List.Forall₂ (fun a b => (p a = true ∧ ∃ b', b = some b' ∧ R a b') ∨
      (p a = false ∧ b = none)) as found) :
    List.Forall₂ R (as.filter p) (found.filterMap fun b => b) := by
  induction h with
  | nil => exact .nil
  | cons hab _ ih =>
    rcases hab with ⟨hp, b, rfl, hab⟩ | ⟨hp, rfl⟩
    · simpa [hp] using ⟨hab, ih⟩
    · simpa [hp] using ih

end Related

inductive ExceptRel (R : α → β → Prop) : Except ε α → Except ε β → Prop
  | ok {a b} : R a b → ExceptRel R (.ok a) (.ok b)
  | error (e) : ExceptRel R (.error e) (.error e)

namespace ExceptRel

variable {γ δ : Type v} {R : α → β → Prop} {S : γ → δ → Prop}

theorem bind {x : Except ε α} {y : Except ε β} {next : α → Except ε γ} {next' : β → Except ε δ}
    (h : ExceptRel R x y) (hnext : ∀ a b, R a b → ExceptRel S (next a) (next' b)) :
    ExceptRel S (x >>= next) (y >>= next') := by
  cases h with
  | ok hab => exact hnext _ _ hab
  | error e => exact .error e

theorem mapM {f : α → Except ε γ} {g : β → Except ε δ} {as : List α} {bs : List β}
    (h : List.Forall₂ (fun a b => ExceptRel S (f a) (g b)) as bs) :
    ExceptRel (List.Forall₂ S) (as.mapM f) (bs.mapM g) := by
  induction h with
  | nil => exact .ok .nil
  | cons hab _ ih =>
    rw [List.mapM_cons, List.mapM_cons]
    exact hab.bind fun c d hcd => ih.bind fun cs ds hrest => .ok (.cons hcd hrest)

end ExceptRel

end Flowplan
