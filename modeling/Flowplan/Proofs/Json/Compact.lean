import Flowplan.Proofs.Json.Alike

/-!
# Compact texts

Where the compact text of a value ends, and which value it is, can be seen without looking
past its end. So no two values have one text.
-/

namespace Flowplan.Json

open NumberLayout (isDigit_of_mem_decimalDigits isDecimalText_writeDecimal)

variable {rest rest' : List Char}

def isPlain (c : Char) : Bool := c != '"' && c != '\\' && 0x20 ≤ c.toNat

theorem escapeChar_of_isPlain {c : Char} (h : isPlain c = true) : escapeChar false c = [c] := by
  simp only [isPlain, Bool.and_eq_true, bne_iff_ne, decide_eq_true_eq] at h
  obtain ⟨⟨hquote, hslash⟩, hcode⟩ := h
  have hne : ∀ d : Char, d.toNat < 0x20 → (c == d) = false := fun d hd => by
    rw [beq_eq_false_iff_ne]
    rintro rfl
    omega
  simp [escapeChar, hquote, hslash, hne, Nat.not_lt.mpr hcode]

theorem toNat_lt_of_not_isPlain {c : Char} (h : isPlain c = false) : c.toNat < 93 := by
  simp only [isPlain, Bool.and_eq_false_iff, bne_eq_false_iff_eq, decide_eq_false_iff_not] at h
  rcases h with (rfl | rfl) | h
  · decide
  · decide
  · omega

theorem head_escapes : ∀ n : Fin 93, isPlain (.ofNat n) = false →
    (escapeChar false (.ofNat n)).head? = some '\\' := by
  decide +kernel

theorem eq_of_escapes_begin :
    ∀ m : Fin 93, isPlain (.ofNat m) = false → ∀ n : Fin 93, isPlain (.ofNat n) = false →
    (escapeChar false (.ofNat m)).isPrefixOf (escapeChar false (.ofNat n)) = true → m = n := by
  decide +kernel

theorem exists_escapeChar {c : Char} (h : isPlain c = false) :
    ∃ more, escapeChar false c = '\\' :: more := by
  have hhead := head_escapes ⟨c.toNat, toNat_lt_of_not_isPlain h⟩
  simp only [Char.ofNat_toNat] at hhead
  exact ⟨_, (List.head?_eq_some_iff.mp (hhead h)).choose_spec⟩

theorem eq_of_escapeChar_begins {c c' : Char} (h : isPlain c = false) (h' : isPlain c' = false)
    (hbegins : escapeChar false c <+: escapeChar false c') : c = c' := by
  have heq := eq_of_escapes_begin ⟨c.toNat, toNat_lt_of_not_isPlain h⟩
  simp only [Char.ofNat_toNat] at heq
  replace heq := heq h ⟨c'.toNat, toNat_lt_of_not_isPlain h'⟩
  simp only [Char.ofNat_toNat] at heq
  have hcode : c.toNat = c'.toNat := Fin.mk.inj (heq h' (List.isPrefixOf_iff_prefix.mpr hbegins))
  rw [← Char.ofNat_toNat c, hcode, Char.ofNat_toNat]

theorem escapeChar_append_inj {c c' : Char}
    (h : escapeChar false c ++ rest = escapeChar false c' ++ rest') : c = c' ∧ rest = rest' := by
  suffices hc : c = c' by
    subst hc
    exact ⟨rfl, List.append_cancel_left h⟩
  cases hplain : isPlain c <;> cases hplain' : isPlain c'
  case false.false =>
    rcases List.prefix_or_prefix_of_prefix (List.prefix_append _ _)
        (h ▸ List.prefix_append _ _) with hbegins | hbegins
    · exact (eq_of_escapeChar_begins hplain' hplain hbegins).symm
    · exact eq_of_escapeChar_begins hplain hplain' hbegins
  case true.true =>
    rw [escapeChar_of_isPlain hplain, escapeChar_of_isPlain hplain'] at h
    exact (List.cons.inj h).1
  case false.true =>
    obtain ⟨more, hmore⟩ := exists_escapeChar hplain
    rw [hmore, escapeChar_of_isPlain hplain'] at h
    exact absurd ((List.cons.inj h).1 ▸ hplain') (by decide)
  case true.false =>
    obtain ⟨more, hmore⟩ := exists_escapeChar hplain'
    rw [hmore, escapeChar_of_isPlain hplain] at h
    exact absurd ((List.cons.inj h).1 ▸ hplain) (by decide)

theorem exists_escapeChar_cons (c : Char) :
    ∃ first more, escapeChar false c = first :: more ∧ first ≠ '"' := by
  cases hplain : isPlain c with
  | true =>
    refine ⟨c, [], escapeChar_of_isPlain hplain, ?_⟩
    rintro rfl
    cases hplain
  | false =>
    obtain ⟨more, hmore⟩ := exists_escapeChar hplain
    exact ⟨_, more, hmore, by decide⟩

theorem escapes_append_inj {text text' : List Char}
    (h : text.flatMap (escapeChar false) ++ '"' :: rest = text'.flatMap (escapeChar false)
      ++ '"' :: rest') : text = text' ∧ rest = rest' := by
  induction text generalizing text' with
  | nil =>
    cases text' with
    | nil => exact ⟨rfl, (List.cons.inj h).2⟩
    | cons c' text' =>
      obtain ⟨first, more, hfirst, hne⟩ := exists_escapeChar_cons c'
      rw [List.flatMap_cons, hfirst] at h
      exact absurd (List.cons.inj h).1.symm hne
  | cons c text ih =>
    cases text' with
    | nil =>
      obtain ⟨first, more, hfirst, hne⟩ := exists_escapeChar_cons c
      rw [List.flatMap_cons, hfirst] at h
      exact absurd (List.cons.inj h).1 hne
    | cons c' text' =>
      simp only [List.flatMap_cons, List.append_assoc] at h
      obtain ⟨rfl, htail⟩ := escapeChar_append_inj h
      obtain ⟨rfl, hrest⟩ := ih htail
      exact ⟨rfl, hrest⟩

theorem quote_append_inj {text text' : List Char}
    (h : quote false text ++ rest = quote false text' ++ rest') : text = text' ∧ rest = rest' := by
  simp only [quote, List.cons_append, List.append_assoc, List.cons.injEq, true_and,
    List.nil_append] at h
  exact escapes_append_inj h

def marks : List Char := ['"', ',', '[', ']', '{', '}']

def Ends (rest : List Char) : Prop := ∀ c ∈ rest.head?, c ∈ marks

theorem bare_append_inj {text text' : List Char} (htext : ∀ c ∈ text, c ∉ marks)
    (htext' : ∀ c ∈ text', c ∉ marks) (hrest : Ends rest) (hrest' : Ends rest')
    (h : text ++ rest = text' ++ rest') : text = text' ∧ rest = rest' := by
  induction text generalizing text' with
  | nil =>
    cases text' with
    | nil => exact ⟨rfl, h⟩
    | cons c' text' =>
      have hend := hrest c' (by rw [← List.nil_append rest, h]; rfl)
      exact absurd hend (htext' c' List.mem_cons_self)
  | cons c text ih =>
    obtain ⟨hc, htext⟩ := List.forall_mem_cons.mp htext
    cases text' with
    | nil => exact absurd (hrest' c (by rw [← List.nil_append rest', ← h]; rfl)) hc
    | cons c' text' =>
      obtain ⟨rfl, htail⟩ := List.cons.inj h
      obtain ⟨rfl, hrest⟩ := ih htext (List.forall_mem_cons.mp htext').2 htail
      exact ⟨rfl, hrest⟩

theorem notMem_marks_of_isDigit {c : Char} (h : c.isDigit = true) : c ∉ marks := by
  intro hmem
  simp only [marks, List.mem_cons, List.not_mem_nil, or_false] at hmem
  rcases hmem with rfl | rfl | rfl | rfl | rfl | rfl <;> cases h

def isNumeral (text : List Char) : Bool := text.all fun c => c.isDigit || c == '-'

def isWord (text : List Char) : Bool := text.head?.any Char.isLower

theorem notMem_marks_of_isNumeral {text : List Char} (h : isNumeral text = true) :
    ∀ c ∈ text, c ∉ marks := by
  intro c hc
  rcases Bool.or_eq_true_iff.mp (List.all_eq_true.mp h c hc) with hc | hc
  · exact notMem_marks_of_isDigit hc
  · exact eq_of_beq hc ▸ (by decide)

theorem toList_toString (n : Int) :
    (toString n).toList = Double.signText (decide (n < 0)) ++ decimalDigits n.natAbs := by
  rw [Int.toString_eq_repr, Int.repr_eq_if]
  split
  · next h =>
    rw [Nat.toList_repr, decide_eq_false (Int.not_lt.mpr h), show n.toNat = n.natAbs by omega]
    rfl
  · next h =>
    rw [String.toList_append, Nat.toList_repr, decide_eq_true (Int.not_le.mp h),
      show (-n).toNat = n.natAbs by omega]
    rfl

theorem isNumeral_decimalDigits (n : Nat) : isNumeral (decimalDigits n) = true :=
  List.all_eq_true.mpr fun c hc => by simp [isDigit_of_mem_decimalDigits hc]

theorem isNumeral_toString (n : Int) : isNumeral (toString n).toList = true := by
  rw [toList_toString, isNumeral, List.all_append, ← isNumeral, ← isNumeral,
    isNumeral_decimalDigits, Bool.and_true, Double.signText]
  split <;> rfl

theorem toString_ne_nil (n : Int) : (toString n).toList ≠ [] := by
  rw [toList_toString]
  exact List.append_ne_nil_of_right_ne_nil _ Nat.toDigits_ne_nil

theorem head_decimalDigits_ne (n : Nat) : (decimalDigits n).head? ≠ some '-' := by
  intro h
  cases isDigit_of_mem_decimalDigits (List.mem_of_mem_head? h)

theorem eq_of_toString_eq {n m : Int} (h : (toString n).toList = (toString m).toList) : n = m := by
  rw [toList_toString, toList_toString] at h
  obtain ⟨hsign, hdigits⟩ :=
    Double.signText_append_inj (head_decimalDigits_ne _) (head_decimalDigits_ne _) h
  have habs : n.natAbs = m.natAbs := by
    rw [← @Nat.ofDigitChars_ten_toDigits n.natAbs, ← @Nat.ofDigitChars_ten_toDigits m.natAbs]
    exact congrArg (Nat.ofDigitChars 10 · 0) hdigits
  rw [decide_eq_decide] at hsign
  omega

theorem notMem_marks_of_mem_unsigned (x : Double) : ∀ c ∈ x.unsigned numberLayout, c ∉ marks := by
  rw [Double.unsigned]
  cases x.read with
  | finite negative significand exponent =>
    intro c hc
    rcases (isDecimalText_writeDecimal _ _).mem c hc with hc | hc
    · exact notMem_marks_of_isDigit hc
    · exact (by simp [marks] : ∀ c ∈ ['.', 'e', '-', '+'], c ∉ marks) c hc
  | infinite negative => exact (by simp [marks] : ∀ c ∈ "Infinity".toList, c ∉ marks)
  | undefined => exact (by simp [marks] : ∀ c ∈ "NaN".toList, c ∉ marks)

theorem isNumeral_unsigned (x : Double) : isNumeral (x.unsigned numberLayout) = false := by
  rw [isNumeral, List.all_eq_false, Double.unsigned]
  cases x.read with
  | finite negative significand exponent =>
    rcases (isDecimalText_writeDecimal numberLayout
        (Double.shortest significand exponent)).mark with hmark | hmark
    · exact ⟨_, hmark, by decide⟩
    · exact ⟨_, hmark, by decide⟩
  | infinite negative => exact ⟨'I', (by decide : 'I' ∈ "Infinity".toList), by decide⟩
  | undefined => exact ⟨'N', (by decide : 'N' ∈ "NaN".toList), by decide⟩

theorem isNumeral_write_float (x : Double) : isNumeral (x.write numberLayout).toList = false := by
  rw [Double.toList_write, isNumeral, List.all_append, ← isNumeral, ← isNumeral, isNumeral_unsigned,
    Bool.and_false]

theorem isWord_write_float (x : Double) : isWord (x.write numberLayout).toList = false := by
  obtain ⟨c, more, htext, hc⟩ := x.exists_unsigned
  have hlower : c.isLower = false := by
    rcases hc with ⟨_, hc⟩ | ⟨_, hc⟩
    · change (decide (97 ≤ c.val) && decide (c.val ≤ 122)) = false
      simp only [Char.isDigit, Bool.and_eq_true, decide_eq_true_eq, Bool.and_eq_false_iff,
        decide_eq_false_iff_not, UInt32.le_iff_toNat_le] at hc ⊢
      simp at hc ⊢
      omega
    · simp only [List.mem_cons, List.not_mem_nil, or_false] at hc
      rcases hc with rfl | rfl <;> rfl
  rw [Double.toList_write, htext, isWord, Double.signText]
  split
  · rfl
  · exact hlower

def isScalar : Json → Bool
  | .null | .bool _ | .int _ | .float _ => true
  | .str _ | .arr _ | .obj _ => false

variable {style : Style} {depth : Nat} {value other : Json}

theorem notMem_marks_of_isScalar (h : value.isScalar = true) :
    ∀ c ∈ value.write style depth, c ∉ marks := by
  cases value with
  | null => exact (by simp [marks] : ∀ c ∈ "null".toList, c ∉ marks)
  | bool value =>
    cases value with
    | true => exact (by simp [marks] : ∀ c ∈ "true".toList, c ∉ marks)
    | false => exact (by simp [marks] : ∀ c ∈ "false".toList, c ∉ marks)
  | int n => exact notMem_marks_of_isNumeral (isNumeral_toString n)
  | float x =>
    rw [write, Double.toList_write]
    intro c hc
    rcases List.mem_append.mp hc with hc | hc
    · rw [Double.signText] at hc
      split at hc
      · exact List.mem_singleton.mp hc ▸ (by decide)
      · cases hc
    · exact notMem_marks_of_mem_unsigned x c hc
  | _ => cases h

theorem write_ne_nil_of_isScalar (h : value.isScalar = true) : value.write style depth ≠ [] := by
  cases value with
  | null => nofun
  | bool value => cases value <;> nofun
  | int n => exact toString_ne_nil n
  | float x =>
    obtain ⟨c, more, htext, _⟩ := x.exists_unsigned
    rw [write, Double.toList_write, htext]
    simp
  | _ => cases h

theorem write_bool (value : Bool) :
    (bool value).write style depth = (if value then "true" else "false").toList := by
  cases value <;> rfl

theorem eq_of_write_scalar (hvalue : value.isScalar = true) (hother : other.isScalar = true)
    (hproper : value.isProper = true) (hproper' : other.isProper = true)
    (h : value.write style depth = other.write style depth) : value = other := by
  have hnumeral := congrArg isNumeral h
  have hword := congrArg isWord h
  have hbool : ∀ value : Bool, isNumeral (if value then "true" else "false").toList = false ∧
      isWord (if value then "true" else "false").toList = true := by decide
  have hnull : isNumeral ['n', 'u', 'l', 'l'] = false ∧ isWord ['n', 'u', 'l', 'l'] = true := by
    decide
  cases value <;> cases other <;> simp only [isScalar, Bool.false_eq_true] at hvalue hother <;>
    simp only [write_bool, write, isNumeral_toString, isNumeral_write_float, isWord_write_float,
      hbool, hnull, Bool.true_eq_false, Bool.false_eq_true] at hnumeral hword h
  case null.null => rfl
  case null.bool value => cases value <;> cases h
  case bool.null value => cases value <;> cases h
  case bool.bool value value' => cases value <;> cases value' <;> first | rfl | cases h
  case int.int n m => rw [eq_of_toString_eq h]
  case float.float x y => rw [Double.eq_of_write_eq hproper hproper' (String.toList_inj.mp h)]

def bracketed {α : Type} (text : α → List Char) (close : Char) : List α → List Char
  | [] => [close]
  | x :: xs => text x ++ xs.flatMap (fun x => ',' :: text x) ++ [close]

/-- Two pieces that are the same where their texts are, whatever follows. -/
def Delimited {α : Type} (text : α → List Char) (x y : α) : Prop :=
  ∀ rest rest', Ends rest → Ends rest' → text x ++ rest = text y ++ rest' → x = y ∧ rest = rest'

section Brackets

variable {α : Type} {text : α → List Char} {close : Char} {xs ys : List α}

theorem ends_more (hclose : close ∈ marks) :
    Ends (xs.flatMap (fun x => ',' :: text x) ++ close :: rest) := by
  cases xs with
  | nil => rintro c ⟨⟩; exact hclose
  | cons x xs => rintro c ⟨⟩; decide

theorem more_append_inj (hclose : close ∈ marks) (hne : close ≠ ',')
    (htext : ∀ x ∈ xs, ∀ y ∈ ys, Delimited text x y)
    (h : xs.flatMap (fun x => ',' :: text x) ++ close :: rest = ys.flatMap (fun y => ',' :: text y)
      ++ close :: rest') : xs = ys ∧ rest = rest' := by
  induction xs generalizing ys with
  | nil =>
    cases ys with
    | nil => exact ⟨rfl, (List.cons.inj h).2⟩
    | cons y ys => exact absurd (List.cons.inj h).1 hne
  | cons x xs ih =>
    cases ys with
    | nil => exact absurd (List.cons.inj h).1.symm hne
    | cons y ys =>
      simp only [List.flatMap_cons, List.cons_append, List.append_assoc, List.cons.injEq,
        true_and] at h
      obtain ⟨rfl, hmore⟩ :=
        htext x List.mem_cons_self y List.mem_cons_self _ _ (ends_more hclose) (ends_more hclose) h
      obtain ⟨rfl, hrest⟩ := ih (fun x hx y hy => htext x (.tail _ hx) y (.tail _ hy)) hmore
      exact ⟨rfl, hrest⟩

theorem bracketed_append_inj (hclose : close ∈ marks) (hne : close ≠ ',')
    (hhead : ∀ x rest, (text x ++ rest).head? ≠ some close)
    (htext : ∀ x ∈ xs, ∀ y ∈ ys, Delimited text x y)
    (h : bracketed text close xs ++ rest = bracketed text close ys ++ rest') :
    xs = ys ∧ rest = rest' := by
  cases xs with
  | nil =>
    cases ys with
    | nil => exact ⟨rfl, (List.cons.inj h).2⟩
    | cons y ys =>
      simp only [bracketed, List.append_assoc] at h
      exact absurd (congrArg List.head? h).symm (hhead y _)
  | cons x xs =>
    cases ys with
    | nil =>
      simp only [bracketed, List.append_assoc] at h
      exact absurd (congrArg List.head? h) (hhead x _)
    | cons y ys =>
      simp only [bracketed, List.append_assoc, List.singleton_append] at h
      obtain ⟨rfl, hmore⟩ :=
        htext x List.mem_cons_self y List.mem_cons_self _ _ (ends_more hclose) (ends_more hclose) h
      obtain ⟨rfl, hrest⟩ :=
        more_append_inj hclose hne (fun x hx y hy => htext x (.tail _ hx) y (.tail _ hy)) hmore
      exact ⟨rfl, hrest⟩

end Brackets

@[simp] theorem comma_compact : Style.compact.comma = [','] := rfl

@[simp] theorem colon_compact : Style.compact.colon = [':'] := rfl

@[simp] theorem line_compact (depth : Nat) : Style.compact.line depth = [] := rfl

@[simp] theorem ascii_compact : Style.compact.ascii = false := rfl

theorem write_arr (depth : Nat) (items : List Json) :
    (arr items).write .compact depth = '[' :: bracketed (write .compact (depth + 1)) ']' items := by
  have hitems : ∀ items : List Json, writeItems .compact (depth + 1) items =
      items.flatMap fun x => ',' :: write .compact (depth + 1) x := by
    intro items
    induction items with
    | nil => rfl
    | cons x items ih => simp [writeItems, ih]
  cases items with
  | nil => rfl
  | cons x items => simp [write, bracketed, hitems]

theorem write_obj (depth : Nat) (fields : Entries Json) :
    (obj fields).write .compact depth =
      '{' :: bracketed (writeField .compact (depth + 1)) '}' fields := by
  have hfields : ∀ fields : Entries Json, writeFields .compact (depth + 1) fields =
      fields.flatMap fun field => ',' :: writeField .compact (depth + 1) field := by
    intro fields
    induction fields with
    | nil => rfl
    | cons field fields ih => simp [writeFields, ih]
  cases fields with
  | nil => rfl
  | cons field fields => simp [write, bracketed, hfields]

theorem writeField_compact (depth : Nat) (field : String × Json) :
    writeField .compact depth field =
      quote false field.1.toList ++ ':' :: field.2.write .compact depth := by
  obtain ⟨name, value⟩ := field
  simp [writeField]

/-- How the text of a value begins tells texts, lists and objects from
each other and from scalars. -/
def opening? : Json → Option Char
  | .str _ => some '"'
  | .arr _ => some '['
  | .obj _ => some '{'
  | _ => none

theorem opening_of_isScalar (h : value.isScalar = true) : value.opening? = none := by
  cases value <;> first | rfl | cases h

theorem exists_write (value : Json) (depth : Nat) :
    ∃ c more, value.write .compact depth = c :: more ∧
    value.opening? = if c ∈ marks then some c else none := by
  cases hscalar : value.isScalar with
  | true =>
    have hne : value.write .compact depth ≠ [] := write_ne_nil_of_isScalar hscalar
    obtain ⟨c, more, htext⟩ := List.exists_cons_of_ne_nil hne
    have hc : c ∉ marks := notMem_marks_of_isScalar hscalar c (htext ▸ List.mem_cons_self)
    exact ⟨c, more, htext, by rw [opening_of_isScalar hscalar, if_neg hc]⟩
  | false =>
    cases value with
    | str s => exact ⟨'"', _, rfl, rfl⟩
    | arr items => exact ⟨'[', _, write_arr depth items, rfl⟩
    | obj fields => exact ⟨'{', _, write_obj depth fields, rfl⟩
    | _ => cases hscalar

theorem head_write_append_ne (value : Json) (depth : Nat) (rest : List Char) :
    (value.write .compact depth ++ rest).head? ≠ some ']' := by
  obtain ⟨c, more, htext, hopening⟩ := exists_write value depth
  rw [htext]
  rintro ⟨⟩
  cases value <;> cases hopening

theorem opening_eq_of_write_eq
    (h : value.write .compact depth ++ rest = other.write .compact depth ++ rest') :
    value.opening? = other.opening? := by
  obtain ⟨c, more, htext, hopening⟩ := exists_write value depth
  obtain ⟨c', more', htext', hopening'⟩ := exists_write other depth
  rw [htext, htext'] at h
  rw [hopening, hopening', (List.cons.inj h).1]

theorem isScalar_iff : value.isScalar = true ↔ value.opening? = none := by
  cases value <;> simp [isScalar, opening?]

theorem delimited_of_isScalar (hvalue : value.isScalar = true) (hproper : value.isProper = true)
    (hproper' : other.isProper = true) : Delimited (write .compact depth) value other := by
  intro rest rest' hrest hrest' h
  have hother : other.isScalar = true :=
    isScalar_iff.mpr (opening_eq_of_write_eq h ▸ isScalar_iff.mp hvalue)
  obtain ⟨htext, hrest⟩ :=
    bare_append_inj (notMem_marks_of_isScalar hvalue) (notMem_marks_of_isScalar hother)
    hrest hrest' h
  exact ⟨eq_of_write_scalar hvalue hother hproper hproper' htext, hrest⟩

theorem delimited_writeField {field field' : String × Json}
    (hvalue : Delimited (write .compact depth) field.2 field'.2) :
    Delimited (writeField .compact depth) field field' := by
  intro rest rest' hrest hrest' h
  simp only [writeField_compact, List.append_assoc, List.cons_append] at h
  obtain ⟨hname, hmore⟩ := quote_append_inj h
  obtain ⟨hvalue, hrest⟩ := hvalue rest rest' hrest hrest' (List.cons.inj hmore).2
  exact ⟨Prod.ext (String.toList_inj.mp hname) hvalue, hrest⟩

theorem head_writeField_append_ne (field : String × Json) (depth : Nat) (rest : List Char) :
    (writeField .compact depth field ++ rest).head? ≠ some '}' := by
  rw [writeField_compact]
  nofun

theorem delimited_write (hproper : value.isProper = true) (hproper' : other.isProper = true) :
    Delimited (write .compact depth) value other := by
  induction value using induction generalizing other depth with
  | arr items ih =>
    intro rest rest' hrest hrest' h
    have hopening := opening_eq_of_write_eq h
    cases other with
    | arr others =>
      rw [write_arr, write_arr] at h
      rw [isProper_arr_iff] at hproper hproper'
      obtain ⟨rfl, hrest⟩ := bracketed_append_inj (by decide) (by decide)
        (fun x rest => head_write_append_ne x (depth + 1) rest)
        (fun x hx y hy => ih x hx (hproper x hx) (hproper' y hy)) (List.cons.inj h).2
      exact ⟨rfl, hrest⟩
    | _ => cases hopening
  | obj fields ih =>
    intro rest rest' hrest hrest' h
    have hopening := opening_eq_of_write_eq h
    cases other with
    | obj others =>
      rw [write_obj, write_obj] at h
      rw [isProper_obj_iff] at hproper hproper'
      obtain ⟨rfl, hrest⟩ := bracketed_append_inj (by decide) (by decide)
        (fun field rest => head_writeField_append_ne field (depth + 1) rest)
        (fun field hfield field' hfield' =>
          delimited_writeField
            (ih field hfield (hproper.2 field hfield) (hproper'.2 field' hfield')))
        (List.cons.inj h).2
      exact ⟨rfl, hrest⟩
    | _ => cases hopening
  | str s =>
    intro rest rest' hrest hrest' h
    have hopening := opening_eq_of_write_eq h
    cases other with
    | str s' =>
      obtain ⟨htext, hrest⟩ := quote_append_inj h
      exact ⟨congrArg Json.str (String.toList_inj.mp htext), hrest⟩
    | _ => cases hopening
  | _ => exact delimited_of_isScalar rfl hproper hproper'

theorem eq_of_print_eq (hproper : value.isProper = true) (hproper' : other.isProper = true)
    (h : value.print .compact = other.print .compact) : value = other := by
  have htext : value.write .compact 0 = other.write .compact 0 := String.ofList_inj.mp h
  exact (delimited_write hproper hproper' [] [] nofun nofun (congrArg (· ++ []) htext)).1

end Flowplan.Json
