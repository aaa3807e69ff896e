import Flowplan.Number.Decimal
import Mathlib.Algebra.Order.Field.Power
import Mathlib.Data.Nat.Cast.Order.Field
import Mathlib.Data.Rat.Cast.Order
import Mathlib.Order.Compare
import Mathlib.Tactic.FieldSimp
import Mathlib.Tactic.Linarith
import Mathlib.Tactic.Ring

/-!
# Rounding intervals

The decimals that read back as a number form an interval around it. The intervals of different
numbers have no decimal in common, so the shortest decimal of a number tells which number it is.
-/

namespace Flowplan.Double

theorem zpow_eq_div {b : ℚ} (hb : b ≠ 0) (n : ℤ) : b ^ n = b ^ n.toNat / b ^ (-n).toNat := by
  rw [← zpow_natCast, ← zpow_natCast, ← zpow_sub₀ hb]
  congr 1
  omega

namespace Decimal

def value (d : Decimal) : ℚ := d.digits * 10 ^ d.exponent

theorem compareBinary_eq (d : Decimal) (units : Nat) (binary : Int) :
    d.compareBinary units binary = compare d.value (units * 2 ^ binary) := by
  have hscale : (0 : ℚ) < 2 ^ (-binary).toNat * 10 ^ (-d.exponent).toNat := by positivity
  have hleft : d.value * (2 ^ (-binary).toNat * 10 ^ (-d.exponent).toNat) =
      ((d.digits * Nat.pow 10 d.exponent.toNat * Nat.pow 2 (-binary).toNat : Nat) : ℚ) := by
    rw [value, zpow_eq_div (by norm_num) d.exponent]
    simp only [Nat.pow_eq]
    push_cast
    field_simp
  have hright : (units * 2 ^ binary : ℚ) * (2 ^ (-binary).toNat * 10 ^ (-d.exponent).toNat) =
      ((units * Nat.pow 2 binary.toNat * Nat.pow 10 (-d.exponent).toNat : Nat) : ℚ) := by
    rw [zpow_eq_div (by norm_num) binary]
    simp only [Nat.pow_eq]
    push_cast
    field_simp
  rw [compareBinary, ← cmp_eq_compare, ← cmp_eq_compare, ← cmp_mul_pos_right hscale, hleft, hright,
    Nat.strictMono_cast.cmp_map_eq]

theorem value_trim (fuel : Nat) (d : Decimal) : (d.trim fuel).value = d.value := by
  induction fuel generalizing d with
  | zero => rfl
  | succ fuel ih =>
    rw [trim]
    split
    · next h =>
      obtain ⟨_, hten⟩ : d.digits ≠ 0 ∧ d.digits % 10 = 0 := by simpa using h
      obtain ⟨n, hn⟩ := Nat.dvd_of_mod_eq_zero hten
      rw [ih, value, value, hn, Nat.mul_div_cancel_left n (by decide), zpow_add_one₀ (by norm_num)]
      push_cast
      ring
    · rfl

end Decimal

theorem value_exactDecimal (significand : Nat) (exponent : Int) :
    (exactDecimal significand exponent).value = significand * 2 ^ exponent := by
  have hten : (10 : ℚ) ^ min exponent 0 = 1 / 10 ^ (-exponent).toNat := by
    rw [zpow_eq_div (by norm_num), show (min exponent 0).toNat = 0 by omega,
      show (-min exponent 0).toNat = (-exponent).toNat by omega, pow_zero]
  have hsplit : (10 : ℚ) ^ (-exponent).toNat = 2 ^ (-exponent).toNat * 5 ^ (-exponent).toNat := by
    rw [← mul_pow]
    norm_num
  simp only [exactDecimal, Decimal.value, Nat.pow_eq]
  rw [hten, hsplit, zpow_eq_div (by norm_num) exponent]
  push_cast
  field_simp

/-- The parts of a number, whose significand is as large as it can be. -/
structure IsNormal (significand : Nat) (exponent : Int) : Prop where
  lt : significand < 2 ^ 53
  least : leastExponent ≤ exponent
  leading : significand < 2 ^ 52 → exponent = leastExponent

def lower (significand : Nat) (exponent : Int) : Nat :=
  4 * significand - if significand == Nat.pow 2 52 && leastExponent < exponent then 1 else 2

def quarter (exponent : Int) : ℚ := 2 ^ (exponent - 2)

theorem quarter_pos (exponent : Int) : 0 < quarter exponent := zpow_pos (by norm_num) _

theorem quarter_add (exponent : Int) (n : Nat) :
    quarter (exponent + n) = 2 ^ n * quarter exponent := by
  rw [quarter, quarter, show exponent + n - 2 = n + (exponent - 2) by ring,
    zpow_add₀ (by norm_num), zpow_natCast]

variable {m m' : Nat} {e e' : Int} {d d' : Decimal}

theorem readsBack_iff : readsBack m e d = true ↔
    (lower m e * quarter e ≤ d.value ∧ d.value ≤ (4 * m + 2 : Nat) * quarter e) ∧
    (m % 2 = 1 → lower m e * quarter e < d.value ∧ d.value < (4 * m + 2 : Nat) * quarter e) := by
  have hlow : ∀ ordering, d.compareBinary (lower m e) (e - 2) = ordering ↔
      compare d.value (lower m e * quarter e) = ordering :=
        fun _ => by rw [Decimal.compareBinary_eq, quarter]
  have hhigh : ∀ ordering, d.compareBinary (4 * m + 2) (e - 2) = ordering ↔
      compare d.value ((4 * m + 2 : Nat) * quarter e) = ordering :=
        fun _ => by rw [Decimal.compareBinary_eq, quarter]
  by_cases heven : m % 2 = 0
  · have hreads : readsBack m e d = true ↔
        d.compareBinary (lower m e) (e - 2) ≠ .lt ∧ d.compareBinary (4 * m + 2) (e - 2) ≠ .gt := by
      simp [readsBack, heven, lower]
    rw [hreads, Ne, hlow, Ne, hhigh, compare_lt_iff_lt, compare_gt_iff_gt, not_lt, not_lt]
    simp [heven]
  · have hreads : readsBack m e d = true ↔
        d.compareBinary (lower m e) (e - 2) = .gt ∧ d.compareBinary (4 * m + 2) (e - 2) = .lt := by
      simp [readsBack, heven, lower]
    rw [hreads, hlow, hhigh, compare_lt_iff_lt, compare_gt_iff_gt]
    exact ⟨fun h => ⟨⟨h.1.le, h.2.le⟩, fun _ => h⟩, fun h => h.2 (by omega)⟩

theorem readsBack_congr (h : d.value = d'.value) : readsBack m e d = readsBack m e d' := by
  rw [Bool.eq_iff_iff, readsBack_iff, readsBack_iff, h]

/-- The interval of a number begins where that of the number before it ends, or later; where one
ends and the other begins, only one of them has an even significand. -/
theorem upper_le_lower (h : IsNormal m e) (h' : IsNormal m' e') {n : Nat}
    (hlt : n = 0 ∧ m < m' ∨ 0 < n) (he : e' = e + n) :
    4 * m + 2 ≤ 2 ^ n * lower m' e' ∧
    (m % 2 = 0 → m' % 2 = 0 → 4 * m + 2 < 2 ^ n * lower m' e') := by
  obtain ⟨hm, hleast, _⟩ := h
  obtain ⟨_, _, hleading⟩ := h'
  rcases hlt with ⟨rfl, hlt⟩ | hn
  · have hlower : 4 * m' - 2 ≤ lower m' e' := by
      rw [lower]
      split <;> omega
    rw [pow_zero, one_mul]
    omega
  · have hnormal : 2 ^ 52 ≤ m' := Nat.le_of_not_lt fun hsmall => by
      have := hleading hsmall
      omega
    have hlower : 2 ^ 54 - 1 ≤ lower m' e' := by
      rw [lower]
      split
      · omega
      · next hwide =>
        have hne : m' ≠ 2 ^ 52 := fun hm' => hwide (by simp [hm', show leastExponent < e' by omega])
        omega
    have htwo : 2 * lower m' e' ≤ 2 ^ n * lower m' e' :=
      Nat.mul_le_mul_right _ (Nat.le_self_pow (by omega) 2)
    omega

theorem not_readsBack_of_before (h : IsNormal m e) (h' : IsNormal m' e') {n : Nat}
    (hlt : n = 0 ∧ m < m' ∨ 0 < n) (he : e' = e + n) (hreads : readsBack m e d = true) :
    readsBack m' e' d = false := by
  obtain ⟨hle, heven⟩ := upper_le_lower h h' hlt he
  rw [Bool.eq_false_iff]
  intro hreads'
  obtain ⟨⟨_, hupper⟩, hodd⟩ := readsBack_iff.mp hreads
  obtain ⟨⟨hlower, _⟩, hodd'⟩ := readsBack_iff.mp hreads'
  have hquarter : lower m' e' * quarter e' = (2 ^ n * lower m' e' : Nat) * quarter e := by
    rw [he, quarter_add]
    push_cast
    ring
  rw [hquarter] at hlower hodd'
  have hcast : ((4 * m + 2 : Nat) : ℚ) * quarter e ≤ (2 ^ n * lower m' e' : Nat) * quarter e :=
    mul_le_mul_of_nonneg_right (Nat.cast_le.mpr hle) (quarter_pos e).le
  rcases Nat.mod_two_eq_zero_or_one m with hm | hm
  · rcases Nat.mod_two_eq_zero_or_one m' with hm' | hm'
    · have hstrict : ((4 * m + 2 : Nat) : ℚ) * quarter e <
          (2 ^ n * lower m' e' : Nat) * quarter e :=
        mul_lt_mul_of_pos_right (Nat.cast_lt.mpr (heven hm hm')) (quarter_pos e)
      linarith
    · linarith [(hodd' hm').1]
  · linarith [(hodd hm).2]

theorem eq_of_readsBack (h : IsNormal m e) (h' : IsNormal m' e') (hreads : readsBack m e d = true)
    (hreads' : readsBack m' e' d = true) : m = m' ∧ e = e' := by
  rcases lt_trichotomy e e' with he | rfl | he
  · have hbefore :=
      not_readsBack_of_before h h' (.inr (by omega)) (show e' = e + (e' - e).toNat by omega) hreads
    simp [hreads'] at hbefore
  · rcases lt_trichotomy m m' with hm | rfl | hm
    · have hbefore := not_readsBack_of_before h h' (.inl ⟨rfl, hm⟩) (by simp) hreads
      simp [hreads'] at hbefore
    · exact ⟨rfl, rfl⟩
    · have hbefore := not_readsBack_of_before h' h (.inl ⟨rfl, hm⟩) (by simp) hreads'
      simp [hreads] at hbefore
  · have hbefore :=
      not_readsBack_of_before h' h (.inr (by omega)) (show e = e' + (e - e').toNat by omega) hreads'
    simp [hreads] at hbefore

theorem readsBack_exactDecimal (hm : 0 < m) : readsBack m e (exactDecimal m e) = true := by
  have hvalue : (exactDecimal m e).value = (4 * m : Nat) * quarter e := by
    rw [value_exactDecimal, quarter, zpow_sub₀ (by norm_num)]
    push_cast
    ring
  have hlow : (lower m e : ℚ) * quarter e < (4 * m : Nat) * quarter e := by
    refine mul_lt_mul_of_pos_right (Nat.cast_lt.mpr ?_) (quarter_pos e)
    rw [lower]
    split <;> omega
  have hhigh : ((4 * m : Nat) : ℚ) * quarter e < (4 * m + 2 : Nat) * quarter e :=
    mul_lt_mul_of_pos_right (Nat.cast_lt.mpr (by omega)) (quarter_pos e)
  rw [readsBack_iff, hvalue]
  exact ⟨⟨hlow.le, hhigh.le⟩, fun _ => ⟨hlow, hhigh⟩⟩

theorem readsBack_nearestOnGrid {step : Int} (h : nearestOnGrid m e step = some d) :
    readsBack m e d = true := by
  rw [nearestOnGrid] at h
  split at h
  · next hbelow _ => exact Option.some.inj h ▸ hbelow
  · next _ habove => exact Option.some.inj h ▸ habove
  · cases h
  · next hbelow habove =>
    split at h
    · exact Option.some.inj h ▸ habove
    · exact Option.some.inj h ▸ hbelow
    · split at h
      · exact Option.some.inj h ▸ hbelow
      · exact Option.some.inj h ▸ habove

theorem readsBack_shortest (hm : 0 < m) : readsBack m e (shortest m e) = true := by
  rw [shortest, if_neg (by simpa using hm.ne'), readsBack_congr (Decimal.value_trim _ _)]
  cases hfound : (List.range 17).findSome? fun (n : Nat) =>
    nearestOnGrid m e (decimalScale m e - (n + 1 : Nat)) with
  | none => exact readsBack_exactDecimal hm
  | some found =>
    obtain ⟨n, _, hn⟩ := List.exists_of_findSome?_eq_some hfound
    exact readsBack_nearestOnGrid hn

theorem value_shortest_pos (hm : 0 < m) : 0 < (shortest m e).value := by
  have hlower : (0 : ℚ) < lower m e := Nat.cast_pos.mpr (by rw [lower]; split <;> omega)
  have hreads := (readsBack_iff.mp (readsBack_shortest (e := e) hm)).1.1
  exact lt_of_lt_of_le (mul_pos hlower (quarter_pos e)) hreads

theorem value_shortest_zero (e : Int) : (shortest 0 e).value = 0 := by
  simp [shortest, Decimal.value]

theorem eq_of_value_shortest (h : IsNormal m e) (h' : IsNormal m' e')
    (hvalue : (shortest m e).value = (shortest m' e').value) : m = m' ∧ e = e' := by
  rcases m.eq_zero_or_pos with rfl | hm <;> rcases m'.eq_zero_or_pos with rfl | hm'
  · exact ⟨rfl, (h.leading (by decide)).trans (h'.leading (by decide)).symm⟩
  · exact absurd hvalue (value_shortest_zero e ▸ (value_shortest_pos hm').ne)
  · exact absurd hvalue (value_shortest_zero e' ▸ (value_shortest_pos hm).ne')
  · refine eq_of_readsBack h h' (readsBack_shortest hm) ?_
    rw [readsBack_congr hvalue]
    exact readsBack_shortest hm'

theorem isNormal_of_read {x : Double} {negative : Bool} (h : x.read = .finite negative m e) :
    IsNormal m e := by
  simp only [read, Nat.pow_eq] at h
  split at h
  · split at h <;> cases h
  · next hfield =>
    split at h
    · cases h
      exact ⟨by omega, Int.le_refl _, fun _ => rfl⟩
    · next hzero =>
      cases h
      simp only [beq_iff_eq] at hfield hzero
      exact ⟨by omega, by rw [leastExponent]; omega, by omega⟩

theorem eq_ofMagnitude {x : Double} {negative : Bool} {magnitude : Nat}
    (hsign : (x.bits.toNat / 2 ^ 63 % 2 == 1) = negative)
    (hrest : x.bits.toNat % 2 ^ 63 = magnitude) : x = ofMagnitude negative magnitude := by
  obtain ⟨bits⟩ := x
  have hbits : bits.toNat < 2 ^ 64 := bits.toNat_lt
  refine congrArg Double.mk (UInt64.toNat_inj.mp ?_)
  rw [UInt64.toNat_ofNat']
  subst hsign hrest
  simp only [Nat.pow_eq, beq_iff_eq]
  split <;> omega

theorem eq_of_read_finite {x : Double} {negative : Bool} (h : x.read = .finite negative m e) :
    x = ofMagnitude negative ((e - leastExponent).toNat * 2 ^ 52 + m) := by
  simp only [read, Nat.pow_eq] at h
  split at h
  · split at h <;> cases h
  · next hfield =>
    simp only [beq_iff_eq] at hfield
    split at h <;> cases h <;> refine eq_ofMagnitude rfl ?_
    · next hzero =>
      simp only [beq_iff_eq] at hzero
      simp only [Int.sub_self, Int.toNat_zero]
      omega
    · next hzero =>
      simp only [beq_iff_eq] at hzero
      rw [leastExponent]
      omega

theorem eq_of_read_infinite {x : Double} {negative : Bool} (h : x.read = .infinite negative) :
    x = infinity negative := by
  simp only [read, Nat.pow_eq] at h
  split at h
  · next hfield =>
    split at h
    · next hfraction =>
      cases h
      simp only [beq_iff_eq] at hfield hfraction
      refine eq_ofMagnitude rfl ?_
      simp only [Nat.pow_eq]
      omega
    · cases h
  · split at h <;> cases h

theorem eq_of_read_eq {x y : Double} (h : x.read = y.read) (hx : x.read ≠ .undefined) : x = y := by
  cases hread : x.read with
  | finite negative m e =>
    exact (eq_of_read_finite hread).trans (eq_of_read_finite (h ▸ hread)).symm
  | infinite negative =>
    exact (eq_of_read_infinite hread).trans (eq_of_read_infinite (h ▸ hread)).symm
  | undefined => exact absurd hread hx

end Flowplan.Double
