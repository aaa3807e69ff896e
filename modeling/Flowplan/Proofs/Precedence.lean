import Mathlib.Data.List.Nodup

namespace Flowplan

universe u v

variable {α : Type u} {β : Type v} {l m : List α} {x a b c : α}

def Before (l : List α) (a b : α) : Prop := [a, b].Sublist l

instance [DecidableEq α] (l : List α) (a b : α) : Decidable (Before l a b) :=
  inferInstanceAs (Decidable ([a, b].Sublist l))

@[simp] theorem not_before_nil : ¬ Before [] a b := by
  intro h
  cases h

@[simp] theorem before_cons : Before (x :: l) a b ↔ Before l a b ∨ a = x ∧ b ∈ l := by
  simp [Before, List.cons_sublist_cons']

namespace Before

theorem mem_left (h : Before l a b) : a ∈ l := h.subset (by simp)

theorem mem_right (h : Before l a b) : b ∈ l := h.subset (by simp)

theorem of_sublist (hlm : l.Sublist m) (h : Before l a b) : Before m a b := h.trans hlm

theorem map (f : α → β) (h : Before l a b) : Before (l.map f) (f a) (f b) := List.Sublist.map f h

theorem filter {p : α → Bool} (ha : p a = true) (hb : p b = true) (h : Before l a b) :
    Before (l.filter p) a b := by
  simpa [Before, ha, hb] using List.Sublist.filter p h

theorem append (ha : a ∈ l) (hb : b ∈ m) : Before (l ++ m) a b :=
  List.Sublist.append (List.singleton_sublist.mpr ha) (List.singleton_sublist.mpr hb)

theorem flatMap {f : α → List β} {y z : β} (h : Before l a b) (hy : y ∈ f a) (hz : z ∈ f b) :
    Before (l.flatMap f) y z := by
  induction l with
  | nil => simp at h
  | cons x l ih =>
    rw [List.flatMap_cons]
    rcases before_cons.mp h with h | ⟨rfl, hb⟩
    · exact (ih h).of_sublist (List.sublist_append_right (f x) _)
    · exact append hy (List.mem_flatMap.mpr ⟨b, hb, hz⟩)

theorem trans (hl : l.Nodup) (hab : Before l a b) (hbc : Before l b c) : Before l a c := by
  induction l with
  | nil => simp at hab
  | cons x l ih =>
    obtain ⟨hx, hl⟩ := List.nodup_cons.mp hl
    rw [before_cons] at hab hbc ⊢
    rcases hbc with hbc | ⟨rfl, _⟩
    · rcases hab with hab | ⟨rfl, _⟩
      · exact .inl (ih hl hab hbc)
      · exact .inr ⟨rfl, hbc.mem_right⟩
    · rcases hab with hab | ⟨_, hb⟩
      · exact absurd hab.mem_right hx
      · exact absurd hb hx

theorem mem_of_append (hl : (l ++ b :: m).Nodup) (h : Before (l ++ b :: m) a b) : a ∈ l := by
  induction l with
  | nil =>
    have hb : b ∉ m := (List.nodup_cons.mp hl).1
    rcases before_cons.mp h with h | ⟨_, h⟩
    · exact absurd h.mem_right hb
    · exact absurd h hb
  | cons x l ih =>
    rcases before_cons.mp h with h | ⟨rfl, _⟩
    · exact List.mem_cons_of_mem x (ih (List.nodup_cons.mp hl).2 h)
    · exact List.mem_cons_self

theorem irrefl (hl : l.Nodup) : ¬ Before l a a := List.nodup_iff_sublist.mp hl a

theorem asymm (hl : l.Nodup) (hab : Before l a b) : ¬ Before l b a :=
  fun hba => irrefl hl (hab.trans hl hba)

theorem connected (ha : a ∈ l) (hb : b ∈ l) (hne : a ≠ b) : Before l a b ∨ Before l b a := by
  induction l with
  | nil => simp at ha
  | cons x l ih => grind [before_cons]

end Before

theorem pairwise_before (h : l.Sublist m) : l.Pairwise (Before m) :=
  List.pairwise_of_forall_sublist fun hab => hab.trans h

theorem eq_of_before (hm : m.Nodup) (hperm : l.Perm m) (h : ∀ a b, Before l a b → Before m a b) :
    l = m := by
  refine hperm.eq_of_pairwise (fun a b _ _ hab hba => absurd hba (hab.asymm hm)) ?_
    (pairwise_before (List.Sublist.refl m))
  exact (pairwise_before (List.Sublist.refl l)).imp (h _ _)

theorem before_induction {P : α → Prop} (hl : l.Nodup)
    (h : ∀ b ∈ l, (∀ a, Before l a b → P a) → P b) : ∀ b ∈ l, P b := by
  have hrest : ∀ rest done, l = done ++ rest → (∀ a ∈ done, P a) → ∀ a ∈ l, P a := by
    intro rest
    induction rest with
    | nil =>
      intro done heq hdone
      simpa [heq] using hdone
    | cons b rest ih =>
      intro done heq hdone
      apply ih (done ++ [b]) (by simpa using heq)
      intro a ha
      rcases List.mem_append.mp ha with ha | ha
      · exact hdone a ha
      · obtain rfl := List.mem_singleton.mp ha
        refine h a (by simp [heq]) fun other hother => hdone other ?_
        rw [heq] at hother
        exact hother.mem_of_append (heq ▸ hl)
  exact hrest l [] rfl (by simp)

theorem idxOf_lt_idxOf_iff [DecidableEq β] {R : α → α → Prop} (hasymm : ∀ x y, R x y → ¬ R y x)
    {f : α → β} (hl : l.Pairwise R) (a b : β) :
    (l.map f).idxOf a < (l.map f).idxOf b ↔ ∃ x ∈ l, f x = a ∧ ∀ y ∈ l, f y = b → R x y := by
  induction hl with
  | nil => simp
  | @cons x l hx _ ih =>
    rw [List.map_cons]
    by_cases hb : f x = b
    · have hback : ∀ z ∈ x :: l, ¬ R z x := by
        intro z hz hzx
        rcases List.mem_cons.mp hz with rfl | hz
        · exact hasymm z z hzx hzx
        · exact hasymm x z (hx z hz) hzx
      rw [← hb, List.idxOf_cons_self]
      constructor
      · intro h
        cases h
      · rintro ⟨z, hz, _, hall⟩
        exact absurd (hall x List.mem_cons_self rfl) (hback z hz)
    · rw [List.idxOf_cons_ne _ hb]
      by_cases ha : f x = a
      · rw [← ha, List.idxOf_cons_self]
        refine iff_of_true (Nat.succ_pos _) ⟨x, List.mem_cons_self, rfl, ?_⟩
        intro y hy hyb
        rcases List.mem_cons.mp hy with rfl | hy
        · exact absurd hyb hb
        · exact hx y hy
      · rw [List.idxOf_cons_ne _ ha, Nat.succ_lt_succ_iff, ih]
        grind

end Flowplan
