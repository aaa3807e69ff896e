import Flowplan.Json.Printer
import Flowplan.Proofs.Number.Interval
import Flowplan.Text.Segments

namespace Flowplan

namespace NumberLayout

open Double (Decimal)

def pointedValue (cs : List Char) : ℚ :=
  match Text.cut '.' cs with
  | (whole, none) => Nat.ofDigitChars 10 whole 0
  | (whole, some fraction) =>
    Nat.ofDigitChars 10 (whole ++ fraction) 0 * 10 ^ (-(fraction.length : ℤ))

def exponentValue : List Char → ℤ
  | '-' :: digits => -Nat.ofDigitChars 10 digits 0
  | _ :: digits => Nat.ofDigitChars 10 digits 0
  | [] => 0

def textValue (cs : List Char) : ℚ :=
  match Text.cut 'e' cs with
  | (body, none) => pointedValue body
  | (body, some exponent) => pointedValue body * 10 ^ exponentValue exponent

theorem ofDigitChars_zeros_append (n : Nat) (cs : List Char) :
    Nat.ofDigitChars 10 (List.replicate n '0' ++ cs) 0 = Nat.ofDigitChars 10 cs 0 := by
  rw [Nat.ofDigitChars_append, Nat.ofDigitChars_replicate_zero, Nat.mul_zero]

theorem ofDigitChars_append_zeros (cs : List Char) (n : Nat) :
    Nat.ofDigitChars 10 (cs ++ List.replicate n '0') 0 = 10 ^ n * Nat.ofDigitChars 10 cs 0 := by
  rw [Nat.ofDigitChars_append, Nat.ofDigitChars_replicate_zero]

theorem pointedValue_append {whole : List Char} (h : '.' ∉ whole) (fraction : List Char) :
    pointedValue (whole ++ '.' :: fraction) =
      Nat.ofDigitChars 10 (whole ++ fraction) 0 * 10 ^ (-(fraction.length : ℤ)) := by
  rw [pointedValue, Text.cut_append_cons h]

theorem pointedValue_of_notMem {cs : List Char} (h : '.' ∉ cs) :
    pointedValue cs = Nat.ofDigitChars 10 cs 0 := by
  rw [pointedValue, Text.cut_of_notMem h]

theorem exponentValue_writeExponent (layout : NumberLayout) (exponent : Int) :
    exponentValue (layout.writeExponent exponent) = exponent := by
  have hdigits : Nat.ofDigitChars 10 (padLeft layout.exponentWidth (decimalDigits exponent.natAbs))
      0 = exponent.natAbs := by
    rw [padLeft, ofDigitChars_zeros_append, decimalDigits, Nat.ofDigitChars_ten_toDigits]
  rw [writeExponent]
  split
  · rw [exponentValue, hdigits]
    omega
  · rw [exponentValue, hdigits]
    · omega
    · exact fun h => nomatch h

theorem isDigit_of_mem_decimalDigits {n : Nat} {c : Char} (h : c ∈ decimalDigits n) :
    c.isDigit = true := Nat.isDigit_of_mem_toDigits (by decide) (by decide) h

theorem notMem_of_isDigit {cs : List Char} {mark : Char} (h : ∀ c ∈ cs, c.isDigit = true)
    (hmark : mark.isDigit = false) : mark ∉ cs :=
  fun hmem => by simp [h mark hmem] at hmark

structure IsPointed (cs : List Char) (value : ℚ) : Prop where
  head : ∃ c rest, cs = c :: rest ∧ c.isDigit = true
  mem : ∀ c ∈ cs, c.isDigit = true ∨ c = '.'
  value : pointedValue cs = value

variable {digits whole fraction : List Char}

theorem exists_head (hdigits : ∀ c ∈ digits, c.isDigit = true) (hne : digits ≠ []) :
    ∃ c rest, digits = c :: rest ∧ c.isDigit = true := by
  obtain ⟨c, rest, rfl⟩ := List.exists_cons_of_ne_nil hne
  exact ⟨c, rest, rfl, hdigits c List.mem_cons_self⟩

theorem isPointed_digits (hdigits : ∀ c ∈ digits, c.isDigit = true) (hne : digits ≠ []) :
    IsPointed digits (Nat.ofDigitChars 10 digits 0) :=
  ⟨exists_head hdigits hne, fun c hc => .inl (hdigits c hc),
    pointedValue_of_notMem (notMem_of_isDigit hdigits rfl)⟩

theorem isPointed_append {value : ℚ} (hwhole : ∀ c ∈ whole, c.isDigit = true)
    (hfraction : ∀ c ∈ fraction, c.isDigit = true) (hne : whole ≠ [])
    (hvalue : Nat.ofDigitChars 10 (whole ++ fraction) 0 * 10 ^ (-(fraction.length : ℤ)) = value) :
    IsPointed (whole ++ '.' :: fraction) value := by
  refine ⟨?_, fun c hc => ?_,
    (pointedValue_append (notMem_of_isDigit hwhole rfl) fraction).trans hvalue⟩
  · obtain ⟨c, rest, rfl, hc⟩ := exists_head hwhole hne
    exact ⟨c, _, rfl, hc⟩
  · rcases List.mem_append.mp hc with hc | hc
    · exact .inl (hwhole c hc)
    · exact (List.mem_cons.mp hc).elim .inr fun hc => .inl (hfraction c hc)

/-- Positional writing puts zeros at one end of the digits where the point is not among them. -/
theorem isPointed_writePositional (hdigits : ∀ c ∈ digits, c.isDigit = true) (hne : digits ≠ [])
    (point : Int) :
    IsPointed (writePositional digits point) (Nat.ofDigitChars 10 digits 0 * 10 ^
      (point - digits.length)) := by
  have hzeros : ∀ n, ∀ c ∈ List.replicate n '0', c.isDigit = true :=
    fun n c h => (List.mem_replicate.mp h).2 ▸ rfl
  have hlength := List.length_pos_iff.mpr hne
  rw [writePositional]
  split
  · show IsPointed (['0'] ++ '.' :: (List.replicate (-point).toNat '0' ++ digits)) _
    refine isPointed_append (hzeros 1) (List.forall_mem_append.mpr ⟨hzeros _, hdigits⟩) nofun ?_
    rw [← List.append_assoc, List.append_assoc, show ['0'] = List.replicate 1 '0' from rfl,
      ofDigitChars_zeros_append, ofDigitChars_zeros_append]
    congr 2
    simp only [List.length_append, List.length_replicate]
    omega
  · split
    · next hshort =>
      have hmore : (point - digits.length : ℤ) = (point.toNat - digits.length : ℕ) := by omega
      refine isPointed_append (List.forall_mem_append.mpr ⟨hdigits, hzeros _⟩) (hzeros 1)
        (by simp [hne]) ?_
      rw [show ['0'] = List.replicate 1 '0' from rfl, ofDigitChars_append_zeros,
        ofDigitChars_append_zeros, List.length_replicate, hmore, zpow_natCast]
      push_cast
      ring
    · next hpoint _ =>
      refine isPointed_append (fun c hc => hdigits c (List.mem_of_mem_take hc))
        (fun c hc => hdigits c (List.mem_of_mem_drop hc)) ?_ ?_
      · intro hnil
        rcases List.take_eq_nil_iff.mp hnil with hzero | hzero
        · omega
        · exact hne hzero
      · rw [List.take_append_drop, List.length_drop]
        congr 2
        omega

theorem exists_eq_writeScientific (layout : NumberLayout) (hdigits : ∀ c ∈ digits, c.isDigit = true)
    (hne : digits ≠ []) (exponent : Int) :
    ∃ body, layout.writeScientific digits exponent = body ++ 'e' :: layout.writeExponent exponent ∧
      IsPointed body (Nat.ofDigitChars 10 digits 0 * 10 ^ (1 - digits.length : ℤ)) := by
  obtain ⟨first, rest, rfl⟩ := List.exists_cons_of_ne_nil hne
  cases rest with
  | nil =>
    refine ⟨[first], rfl, ?_⟩
    simpa using isPointed_digits hdigits hne
  | cons second rest =>
    obtain ⟨hfirst, hrest⟩ := List.forall_mem_cons.mp hdigits
    refine ⟨[first] ++ '.' :: second :: rest, by simp [writeScientific], ?_⟩
    refine isPointed_append (by simpa using hfirst) hrest nofun ?_
    congr 2

theorem mem_writeExponent {layout : NumberLayout} {exponent : Int} {c : Char}
    (h : c ∈ layout.writeExponent exponent) : c.isDigit = true ∨ c = '-' ∨ c = '+' := by
  rw [writeExponent] at h
  rcases List.mem_cons.mp h with rfl | h
  · split <;> simp
  · rcases List.mem_append.mp h with h | h
    · exact .inl ((List.mem_replicate.mp h).2 ▸ rfl)
    · exact .inl (isDigit_of_mem_decimalDigits h)

theorem dot_mem_writePositional (digits : List Char) (point : Int) :
    '.' ∈ writePositional digits point := by
  rw [writePositional]
  split
  · simp
  · split <;> simp

theorem exists_eq_writeDecimal (layout : NumberLayout) (d : Decimal) :
    ∃ body value, IsPointed body value ∧
    (layout.writeDecimal d = body ∧ '.' ∈ body ∧ value = d.value ∨ ∃ exponent,
      layout.writeDecimal d = body ++ 'e' :: layout.writeExponent exponent ∧
      value * 10 ^ exponent = d.value) := by
  have hdigits : ∀ c ∈ decimalDigits d.digits, c.isDigit = true :=
    fun c => isDigit_of_mem_decimalDigits
  have hne : decimalDigits d.digits ≠ [] := Nat.toDigits_ne_nil
  have hvalue : Nat.ofDigitChars 10 (decimalDigits d.digits) 0 = d.digits :=
    Nat.ofDigitChars_ten_toDigits
  have hpositional := isPointed_writePositional hdigits hne
  rw [writeDecimal]
  split
  · next hzero =>
    simp only [beq_iff_eq] at hzero
    refine ⟨_, _, hpositional 1, .inl ⟨rfl, dot_mem_writePositional _ _, ?_⟩⟩
    rw [hvalue, Decimal.value, hzero]
    simp
  · split
    · refine ⟨_, _, hpositional _, .inl ⟨rfl, dot_mem_writePositional _ _, ?_⟩⟩
      rw [hvalue, Decimal.value, add_sub_cancel_left]
    · obtain ⟨body, hwrite, hbody⟩ := exists_eq_writeScientific layout hdigits hne
        ((decimalDigits d.digits).length + d.exponent - 1)
      refine ⟨body, _, hbody, .inr ⟨_, hwrite, ?_⟩⟩
      rw [hvalue, Decimal.value, mul_assoc, ← zpow_add₀ (by norm_num)]
      congr 2
      ring

theorem textValue_writeDecimal (layout : NumberLayout) (d : Decimal) :
    textValue (layout.writeDecimal d) = d.value := by
  obtain ⟨body, value, hbody, hcases⟩ := exists_eq_writeDecimal layout d
  have he : 'e' ∉ body := by
    intro hmem
    rcases hbody.mem _ hmem with h | h <;> cases h
  rcases hcases with ⟨hwrite, _, hvalue⟩ | ⟨exponent, hwrite, hvalue⟩
  · rw [hwrite, textValue, Text.cut_of_notMem he]
    exact hbody.value.trans hvalue
  · rw [hwrite, textValue, Text.cut_append_cons he]
    dsimp only
    rw [hbody.value, exponentValue_writeExponent, hvalue]

structure IsDecimalText (cs : List Char) : Prop where
  head : ∃ c rest, cs = c :: rest ∧ c.isDigit = true
  mem : ∀ c ∈ cs, c.isDigit = true ∨ c ∈ ['.', 'e', '-', '+']
  mark : '.' ∈ cs ∨ 'e' ∈ cs

theorem isDecimalText_writeDecimal (layout : NumberLayout) (d : Decimal) :
    IsDecimalText (layout.writeDecimal d) := by
  obtain ⟨body, value, hbody, hcases⟩ := exists_eq_writeDecimal layout d
  have hmem : ∀ c ∈ body, c.isDigit = true ∨ c ∈ ['.', 'e', '-', '+'] := fun c hc =>
    (hbody.mem c hc).imp_right (by rintro rfl; decide)
  rcases hcases with ⟨hwrite, hdot, _⟩ | ⟨exponent, hwrite, _⟩
  · rw [hwrite]
    exact ⟨hbody.head, hmem, .inl hdot⟩
  · rw [hwrite]
    refine ⟨?_, fun c hc => ?_, .inr (by simp)⟩
    · obtain ⟨c, rest, rfl, hc⟩ := hbody.head
      exact ⟨c, _, rfl, hc⟩
    · rcases List.mem_append.mp hc with hc | hc
      · exact hmem c hc
      · rcases List.mem_cons.mp hc with rfl | hc
        · exact .inr (by decide)
        · exact (mem_writeExponent hc).imp_right (by rintro (rfl | rfl) <;> decide)

end NumberLayout

namespace Double

open NumberLayout

variable {x y : Double} {negative : Bool} {significand : Nat} {exponent : Int}

def isProper (x : Double) : Bool := x.read != .undefined || x == undefined

def isNegative (x : Double) : Bool :=
  match x.read with
  | .finite negative _ _ | .infinite negative => negative
  | .undefined => false

def unsigned (layout : NumberLayout) (x : Double) : List Char :=
  match x.read with
  | .finite _ significand exponent => layout.writeDecimal (shortest significand exponent)
  | .infinite _ => layout.infinity.toList
  | .undefined => layout.undefined.toList

def signText (negative : Bool) : List Char := if negative then ['-'] else []

theorem toList_write (layout : NumberLayout) (x : Double) :
    (x.write layout).toList = signText x.isNegative ++ x.unsigned layout := by
  rw [write, isNegative, unsigned]
  cases x.read with
  | finite negative significand exponent => exact String.toList_ofList
  | infinite negative => cases negative <;> simp [signText]
  | undefined => rfl

theorem signText_append_inj {negative negative' : Bool} {cs cs' : List Char}
    (hcs : cs.head? ≠ some '-') (hcs' : cs'.head? ≠ some '-')
    (h : signText negative ++ cs = signText negative' ++ cs') :
    negative = negative' ∧ cs = cs' := by
  cases negative <;> cases negative'
  case false.false => exact ⟨rfl, h⟩
  case false.true => exact absurd (congrArg List.head? h) hcs
  case true.false => exact absurd (congrArg List.head? h).symm hcs'
  case true.true => exact ⟨rfl, (List.cons.inj h).2⟩

theorem exists_unsigned (x : Double) : ∃ c rest, x.unsigned Json.numberLayout = c :: rest ∧
    (x.isFinite = true ∧ c.isDigit = true ∨ x.isFinite = false ∧ c ∈ ['I', 'N']) := by
  rw [unsigned, isFinite]
  cases x.read with
  | finite negative significand exponent =>
    obtain ⟨c, rest, hwrite, hc⟩ :=
      (isDecimalText_writeDecimal Json.numberLayout (shortest significand exponent)).head
    exact ⟨c, rest, hwrite, .inl ⟨rfl, hc⟩⟩
  | infinite negative => exact ⟨'I', _, rfl, .inr ⟨rfl, by decide⟩⟩
  | undefined => exact ⟨'N', _, rfl, .inr ⟨rfl, by decide⟩⟩

theorem head_unsigned_ne (x : Double) : (x.unsigned Json.numberLayout).head? ≠ some '-' := by
  obtain ⟨c, rest, htext, hc⟩ := x.exists_unsigned
  rw [htext, List.head?_cons]
  rintro ⟨⟩
  rcases hc with ⟨_, hc⟩ | ⟨_, hc⟩ <;> revert hc <;> decide

theorem isFinite_eq_of_unsigned_eq
    (h : x.unsigned Json.numberLayout = y.unsigned Json.numberLayout) :
    x.isFinite = y.isFinite := by
  obtain ⟨c, rest, htext, hc⟩ := x.exists_unsigned
  obtain ⟨c', rest', htext', hc'⟩ := y.exists_unsigned
  obtain ⟨rfl, _⟩ : c = c' ∧ rest = rest' := by simpa [htext, htext'] using h
  have hdigit : c.isDigit = true → c ∉ ['I', 'N'] := by
    intro hdigit hmem
    simp only [List.mem_cons, List.not_mem_nil, or_false] at hmem
    rcases hmem with rfl | rfl <;> cases hdigit
  rcases hc with ⟨hx, hc⟩ | ⟨hx, hc⟩ <;> rcases hc' with ⟨hy, hc'⟩ | ⟨hy, hc'⟩
  · rw [hx, hy]
  · exact absurd hc' (hdigit hc)
  · exact absurd hc (hdigit hc')
  · rw [hx, hy]

theorem eq_of_write_eq (hx : x.isProper = true) (hy : y.isProper = true)
    (h : x.write Json.numberLayout = y.write Json.numberLayout) : x = y := by
  replace h : (x.write Json.numberLayout).toList = (y.write Json.numberLayout).toList :=
    congrArg _ h
  rw [toList_write, toList_write] at h
  obtain ⟨hsign, htext⟩ := signText_append_inj x.head_unsigned_ne y.head_unsigned_ne h
  have hfinite := isFinite_eq_of_unsigned_eq htext
  cases hread : x.read <;> cases hread' : y.read <;>
    simp only [isNegative, unsigned, isFinite, hread, hread', Bool.true_eq_false,
      Bool.false_eq_true] at hsign htext hfinite
  case finite.finite negative m e negative' m' e' =>
    have hvalue := congrArg textValue htext
    rw [textValue_writeDecimal, textValue_writeDecimal] at hvalue
    obtain ⟨rfl, rfl⟩ :=
      eq_of_value_shortest (isNormal_of_read hread) (isNormal_of_read hread') hvalue
    refine eq_of_read_eq ?_ (by simp [hread])
    rw [hread, hread', hsign]
  case infinite.infinite negative negative' =>
    refine eq_of_read_eq ?_ (by simp [hread])
    rw [hread, hread', hsign]
  case undefined.undefined => simp_all [isProper]
  case infinite.undefined => exact absurd htext (by decide)
  case undefined.infinite => exact absurd htext (by decide)

end Double

end Flowplan
