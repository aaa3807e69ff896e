import Flowplan.Proofs.Signature.Path
import Mathlib.Data.Nat.Digits.Defs
import Mathlib.Order.Bounds.Basic

/-!
# Versions of styles

A style gets the version after the greatest one that its slug has among the used names. So versions
of a style follow each other one by one, and those of other styles do not matter.
-/

namespace Flowplan.Signature

open Text

/-- A name that is a slug with `-v` and digits of any script behind it, which
have these values; a line break may follow. -/
def Spells (slug : List Char) (name : String) (values : List Nat) : Prop :=
  values ≠ [] ∧ ∃ digits, List.Forall₂ (fun c value => digitValue c = some value) digits values ∧
    (name.toList = slug ++ ['-', 'v'] ++ digits ∨ name.toList = slug ++ ['-', 'v']
      ++ digits ++ ['\n'])

def versions (slug : List Char) (used : List String) : Set Nat :=
  {n | ∃ name ∈ used, ∃ values, Spells slug name values ∧ Nat.ofDigits 10 values.reverse = n}

def Next (slug : List Char) (used : List String) (n : Nat) : Prop :=
  versions slug used = ∅ ∧ n = 1 ∨ ∃ greatest, IsGreatest (versions slug used) greatest ∧
    n = greatest + 1

def versioned (slug : List Char) (n : Nat) : String :=
  String.ofList (slug ++ ['-', 'v'] ++ Nat.toDigits 10 n)

variable {slug slug' : List Char} {name : String} {values : List Nat}
  {used : List String} {m n : Nat}

@[simp] theorem toList_versioned (slug : List Char) (n : Nat) :
    (versioned slug n).toList = slug ++ ['-', 'v'] ++ Nat.toDigits 10 n :=
  String.toList_ofList

def withoutBreak (rest : List Char) : List Char :=
  if rest.getLast? == some '\n' then rest.dropLast else rest

theorem forall₂_withoutBreak_iff {rest : List Char} :
    List.Forall₂ (fun c value => digitValue c = some value) (withoutBreak rest) values ↔
      ∃ digits, List.Forall₂ (fun c value => digitValue c = some value) digits values ∧
        (rest = digits ∨ rest = digits ++ ['\n']) := by
  constructor
  · intro h
    refine ⟨_, h, ?_⟩
    rw [withoutBreak]
    split
    · next hlast => exact .inr (List.dropLast_append_getLast? '\n' (by simpa using hlast)).symm
    · exact .inl rfl
  · rintro ⟨digits, h, rfl | rfl⟩
    · have hlast : rest.getLast? ≠ some '\n' := by
        intro hlast
        obtain ⟨value, -, hvalue⟩ := exists_right_of_mem h (List.mem_of_getLast? hlast)
        cases hvalue
      simpa [withoutBreak, hlast] using h
    · simpa [withoutBreak] using h

theorem versionDigits?_append {rest : List Char} (h : name.toList = slug ++ ['-', 'v'] ++ rest) :
    versionDigits? slug name = if withoutBreak rest = [] then none
    else (withoutBreak rest).mapM digitValue := by
  have hprefix : (slug ++ ['-', 'v']).isPrefixOf (slug ++ ['-', 'v'] ++ rest) = true := by simp
  rw [versionDigits?, h, List.drop_left, hprefix, Bool.true_and]
  change (if !(withoutBreak rest).isEmpty then (withoutBreak rest).mapM digitValue else none) = _
  cases withoutBreak rest <;> rfl

theorem versionDigits?_eq_some_iff :
    versionDigits? slug name = some values ↔ Spells slug name values := by
  rw [Spells]
  by_cases hstart : slug ++ ['-', 'v'] <+: name.toList
  · obtain ⟨rest, hname⟩ := hstart
    rw [versionDigits?_append hname.symm]
    simp only [← hname, List.append_assoc, List.append_cancel_left_eq, ← forall₂_withoutBreak_iff]
    cases withoutBreak rest with
    | nil => cases values <;> simp
    | cons c digits =>
      rw [if_neg (List.cons_ne_nil c digits), mapM_eq_some_iff]
      cases values <;> simp
  · have hprefix : (slug ++ ['-', 'v']).isPrefixOf name.toList = false := by
      rwa [← Bool.not_eq_true, List.isPrefixOf_iff_prefix]
    rw [versionDigits?, hprefix, Bool.false_and, if_neg Bool.false_ne_true]
    constructor
    · intro h
      cases h
    · rintro ⟨-, digits, -, hname | hname⟩
      · exact absurd ⟨digits, hname.symm⟩ hstart
      · exact absurd ⟨digits ++ ['\n'], by rw [hname, List.append_assoc _ digits]⟩ hstart

theorem Spells.values_eq {values' : List Nat} (h : Spells slug name values)
    (h' : Spells slug name values') : values = values' :=
  Option.some.inj
    ((versionDigits?_eq_some_iff.mpr h).symm.trans (versionDigits?_eq_some_iff.mpr h'))

theorem Spells.exists_rest (h : Spells slug name values) :
    ∃ rest, name.toList = (slug ++ ['-']) ++ 'v' :: rest ∧ 'v' ∉ rest := by
  obtain ⟨-, digits, hdigits, hname⟩ := h
  have hletter : 'v' ∉ digits := by
    intro hmem
    obtain ⟨value, -, hvalue⟩ := exists_right_of_mem hdigits hmem
    cases hvalue
  rcases hname with hname | hname
  · exact ⟨digits, by simp [hname], hletter⟩
  · exact ⟨digits ++ ['\n'], by simp [hname], by simp [hletter]⟩

/-- A name has a version of one slug at most, even if the slug ends in a version or goes on in
another one. -/
theorem Spells.slug_eq {values' : List Nat} (h : Spells slug name values)
    (h' : Spells slug' name values') : slug = slug' := by
  obtain ⟨rest, hname, hrest⟩ := h.exists_rest
  obtain ⟨rest', hname', hrest'⟩ := h'.exists_rest
  exact List.append_cancel_right (eq_and_eq_of_append_cons hrest hrest' (hname.symm.trans hname')).1

theorem spells_versioned (slug : List Char) (n : Nat) :
    Spells slug (versioned slug n) (digitsOf n) :=
  versionDigits?_eq_some_iff.mp (versionDigits?_of_toList (toList_versioned slug n))

theorem ofDigits_eq_ofDigits_reverse (values : List Nat) :
    ofDigits 10 values = Nat.ofDigits 10 values.reverse := by
  rw [ofDigits, Nat.ofDigits_eq_foldr, List.foldr_reverse]
  congr 1
  funext n d
  exact Nat.add_comm (10 * n) d

theorem mem_versions_iff :
    n ∈ versions slug used ↔
      ∃ name ∈ used, ∃ values, Spells slug name values ∧ ofDigits 10 values = n := by
  simp only [versions, ofDigits_eq_ofDigits_reverse]
  rfl

theorem mem_versions_of_mem (h : versioned slug n ∈ used) : n ∈ versions slug used :=
  mem_versions_iff.mpr ⟨_, h, _, spells_versioned slug n, ofDigits_digitsOf n⟩

theorem versions_cons_self (slug : List Char) (n : Nat) (used : List String) :
    versions slug (versioned slug n :: used) = insert n (versions slug used) := by
  ext m
  simp only [mem_versions_iff, Set.mem_insert_iff, List.exists_mem_cons_iff]
  refine or_congr_left ⟨?_, ?_⟩
  · rintro ⟨values, hspells, rfl⟩
    rw [hspells.values_eq (spells_versioned slug n), ofDigits_digitsOf]
  · rintro rfl
    exact ⟨_, spells_versioned slug m, ofDigits_digitsOf m⟩

theorem versions_cons_of_ne (h : slug ≠ slug') (n : Nat) (used : List String) :
    versions slug (versioned slug' n :: used) = versions slug used := by
  ext m
  simp only [mem_versions_iff, List.exists_mem_cons_iff, or_iff_right_iff_imp]
  rintro ⟨values, hspells, -⟩
  exact absurd (hspells.slug_eq (spells_versioned slug' n)) h

theorem Next.lt (h : Next slug used n) (hm : m ∈ versions slug used) : m < n := by
  rcases h with ⟨hnone, -⟩ | ⟨greatest, hgreatest, rfl⟩
  · exact absurd (hnone ▸ hm) (Set.notMem_empty m)
  · exact Nat.lt_succ_of_le (hgreatest.2 hm)

theorem Next.eq (h : Next slug used m) (h' : Next slug used n) : m = n := by
  rcases h with ⟨hnone, rfl⟩ | ⟨greatest, hgreatest, rfl⟩
  · rcases h' with ⟨-, rfl⟩ | ⟨greatest, hgreatest, -⟩
    · rfl
    · exact absurd (hnone ▸ hgreatest.1) (Set.notMem_empty greatest)
  · rcases h' with ⟨hnone, -⟩ | ⟨greatest', hgreatest', rfl⟩
    · exact absurd (hnone ▸ hgreatest.1) (Set.notMem_empty greatest)
    · rw [hgreatest.unique hgreatest']

theorem Next.versioned_notMem {k : Nat} (h : Next slug used n) (hk : n ≤ k) :
    versioned slug k ∉ used := fun hmem => Nat.not_lt_of_le hk (h.lt (mem_versions_of_mem hmem))

theorem Next.succ (h : Next slug used n) : Next slug (versioned slug n :: used) (n + 1) := by
  refine .inr ⟨n, ?_, rfl⟩
  rw [versions_cons_self]
  exact ⟨Set.mem_insert n _, Set.forall_insert_of_forall (fun m hm => (h.lt hm).le) le_rfl⟩

theorem Next.of_ne (h : Next slug used n) (hne : slug ≠ slug') (k : Nat) :
    Next slug (versioned slug' k :: used) n := by
  rwa [Next, versions_cons_of_ne hne]

def latest (slug : List Char) (used : List String) : Nat :=
  ((used.filterMap (versionDigits? slug)).map (ofDigits 10)).foldl max 0

theorem foldl_max_eq_or_mem (start : Nat) (numbers : List Nat) :
    numbers.foldl max start = start ∨ numbers.foldl max start ∈ numbers := by
  induction numbers generalizing start with
  | nil => exact .inl rfl
  | cons number numbers ih =>
    rw [List.foldl_cons, List.mem_cons]
    rcases ih (max start number) with h | h
    · rw [h]
      rcases Nat.le_total start number with hle | hle
      · exact .inr (.inl (Nat.max_eq_right hle))
      · exact .inl (Nat.max_eq_left hle)
    · exact .inr (.inr h)

theorem next_latest (slug : List Char) (used : List String) :
    Next slug used (latest slug used + 1) := by
  have hmem : ∀ n, n ∈ versions slug used ↔
      n ∈ (used.filterMap (versionDigits? slug)).map (ofDigits 10) := by
    intro n
    simp only [mem_versions_iff, List.mem_map, List.mem_filterMap, versionDigits?_eq_some_iff]
    constructor
    · rintro ⟨name, hname, values, hspells, hn⟩
      exact ⟨values, ⟨name, hname, hspells⟩, hn⟩
    · rintro ⟨values, ⟨name, hname, hspells⟩, hn⟩
      exact ⟨name, hname, values, hspells, hn⟩
  rw [latest]
  generalize (used.filterMap (versionDigits? slug)).map (ofDigits 10) = numbers at hmem
  have hbound : ∀ n ∈ numbers, n ≤ numbers.foldl max 0 := fun n hn => le_foldl_max (.inr hn)
  cases numbers with
  | nil =>
    exact .inl ⟨Set.eq_empty_of_forall_notMem fun n hn => List.not_mem_nil ((hmem n).mp hn), rfl⟩
  | cons number numbers =>
    refine .inr ⟨_, ⟨(hmem _).mpr ?_, fun n hn => hbound n ((hmem n).mp hn)⟩, rfl⟩
    rcases foldl_max_eq_or_mem 0 (number :: numbers) with h | h
    · -- there is nothing greater than zero
      have hzero := hbound number List.mem_cons_self
      rw [h] at hzero ⊢
      exact Nat.le_zero.mp hzero ▸ List.mem_cons_self
    · exact h

def Fits (limit : Option Nat) (length : Nat) : Prop := ∀ bound ∈ limit, length ≤ bound

instance {limit : Option Nat} {length : Nat} : Decidable (Fits limit length) :=
  inferInstanceAs (Decidable (∀ bound ∈ limit, length ≤ bound))

def versionWithin (limit : Option Nat) (digits : List Nat) : Except NumeralError Nat :=
  if Fits limit digits.length then .ok (ofDigits 10 digits)
  else .error (.tooLong (some digits.length))

def numeralWithin (limit : Option Nat) (n : Nat) : Except NumeralError String :=
  if Fits limit (Nat.toDigits 10 n).length then .ok (toString n) else .error (.tooLong none)

def pickStyleNameWithin (limit : Option Nat) (style : String) (used : List String) :
    Except NumeralError String := do
  let versions ← (used.filterMap (versionDigits? (styleSlug style))).mapM (versionWithin limit)
  let numeral ← numeralWithin limit (versions.foldl max 0 + 1)
  return String.ofList (styleSlug style) ++ "-v" ++ numeral

structure Legible (limit : Option Nat) (slug : List Char) (used : List String) (n : Nat) :
    Prop where
  read : ∀ name ∈ used, ∀ values, Spells slug name values → Fits limit values.length
  write : Fits limit (Nat.toDigits 10 n).length

variable {limit : Option Nat} {style : String}

theorem fits_none (length : Nat) : Fits none length := nofun

theorem legible_none (slug : List Char) (used : List String) (n : Nat) : Legible none slug used n :=
  ⟨fun _ _ values _ => fits_none values.length, fits_none _⟩

theorem fits_some_iff {bound : Nat} (h : 0 < bound) :
    Fits (some bound) (Nat.toDigits 10 n).length ↔ n < Nat.pow 10 bound := by
  rw [Fits]
  simp only [Option.mem_some_iff, forall_eq']
  exact Nat.length_toDigits_le_iff (by decide) h

theorem pickStyleNameWithin_digitLimit : pickStyleNameWithin (some digitLimit) = pickStyleName := by
  have hversion : versionWithin (some digitLimit) = version := by
    funext digits
    simp only [versionWithin, version, Fits, Option.mem_some_iff, forall_eq', ← Nat.not_lt, ite_not]
  have hnumeral : numeralWithin (some digitLimit) = numeral? := by
    funext n
    simp only [numeralWithin, numeral?, fits_some_iff (show 0 < digitLimit by decide)]
  funext style used
  simp only [pickStyleNameWithin, pickStyleName, nextVersion, hversion, hnumeral,
    bind_assoc, pure_bind]

theorem mapM_versionWithin_eq_ok_iff {numerals : List (List Nat)} {numbers : List Nat} :
    numerals.mapM (versionWithin limit) = .ok numbers ↔
      (∀ values ∈ numerals, Fits limit values.length) ∧ numerals.map (ofDigits 10) = numbers := by
  induction numerals generalizing numbers with
  | nil => simp
  | cons values numerals ih =>
    simp only [List.mapM_cons, versionWithin, bind_eq_ok_iff, pure_eq_ok_iff, ih,
      List.forall_mem_cons, List.map_cons]
    split
    · next hfits => simp [hfits]
    · next hfits => simp [hfits]

theorem pickStyleNameWithin_eq_ok_iff (hnext : Next (styleSlug style) used n) :
    pickStyleNameWithin limit style used = .ok name ↔
      Legible limit (styleSlug style) used n ∧ name = versioned (styleSlug style) n := by
  have hread : (∀ values ∈ used.filterMap (versionDigits? (styleSlug style)),
      Fits limit values.length) ↔
      ∀ name ∈ used, ∀ values, Spells (styleSlug style) name values → Fits limit values.length := by
    simp only [List.mem_filterMap, versionDigits?_eq_some_iff]
    exact ⟨fun h name hname values hspells => h values ⟨name, hname, hspells⟩,
      fun h values ⟨name, hname, hspells⟩ => h name hname values hspells⟩
  obtain rfl := hnext.eq (next_latest (styleSlug style) used)
  have hname : String.ofList (styleSlug style) ++ "-v"
      ++ toString (latest (styleSlug style) used + 1) =
      versioned (styleSlug style) (latest (styleSlug style) used + 1) := by
    apply String.ext
    simp [toString, Nat.toList_repr]
  rw [pickStyleNameWithin]
  simp only [bind_eq_ok_iff, mapM_versionWithin_eq_ok_iff, pure_eq_ok_iff, hread]
  constructor
  · rintro ⟨numbers, ⟨hfits, rfl⟩, numeral, hnumeral, rfl⟩
    rw [numeralWithin] at hnumeral
    split at hnumeral
    · next hwrite =>
      obtain rfl := Except.ok.inj hnumeral
      exact ⟨⟨hfits, hwrite⟩, hname⟩
    · cases hnumeral
  · rintro ⟨⟨hfits, hwrite⟩, rfl⟩
    exact ⟨_, ⟨hfits, rfl⟩, _, if_pos hwrite, hname⟩

def pickStyleNames (limit : Option Nat) (used : List String) :
    List String → Except NumeralError (List String)
  | [] => .ok []
  | style :: styles => do
    let name ← pickStyleNameWithin limit style used
    let names ← pickStyleNames limit (name :: used) styles
    return name :: names

def timesBefore (style : String) (styles : List String) : Nat :=
  (styles.map styleSlug).count (styleSlug style)

variable {styles names : List String} {next : List Char → Nat}

theorem next_update (h : ∀ slug, Next slug used (next slug)) (slug other : List Char) :
    Next other (versioned slug (next slug) :: used)
      (Function.update next slug (next slug + 1) other) := by
  by_cases hother : other = slug
  · subst hother
    rw [Function.update_self]
    exact (h other).succ
  · rw [Function.update_of_ne hother]
    exact (h other).of_ne hother _

theorem update_add_timesBefore (next : List Char → Nat) (first style : String)
    (styles : List String) :
    Function.update next (styleSlug first) (next (styleSlug first) + 1) (styleSlug style) +
      timesBefore style styles =
      next (styleSlug style) + timesBefore style (first :: styles) := by
  rw [timesBefore, timesBefore, List.map_cons]
  by_cases hslug : styleSlug style = styleSlug first
  · rw [hslug, Function.update_self, List.count_cons_self]
    omega
  · rw [Function.update_of_ne hslug, List.count_cons_of_ne (Ne.symm hslug)]

/-- The versions of a slug follow each other one by one, whatever is picked between them. -/
theorem pickStyleNames_eq (hnext : ∀ slug, Next slug used (next slug))
    (h : pickStyleNames limit used styles = .ok names) :
    names = styles.mapIdx fun i style =>
      versioned (styleSlug style) (next (styleSlug style) + timesBefore style (styles.take i)) := by
  induction styles generalizing used names next with
  | nil => exact (Except.ok.inj h).symm
  | cons style styles ih =>
    obtain ⟨name, hname, h⟩ := bind_eq_ok_iff.mp h
    obtain ⟨rest, hrest, h⟩ := bind_eq_ok_iff.mp h
    obtain rfl := pure_eq_ok_iff.mp h
    obtain ⟨-, rfl⟩ := (pickStyleNameWithin_eq_ok_iff (hnext _)).mp hname
    rw [ih (next_update hnext _) hrest, List.mapIdx_cons]
    simp only [update_add_timesBefore, List.take_succ_cons]
    rfl

theorem nodup_pickStyleNames (h : pickStyleNames limit used styles = .ok names) :
    names.Nodup ∧ ∀ name ∈ names, name ∉ used := by
  induction styles generalizing used names with
  | nil =>
    obtain rfl := Except.ok.inj h
    exact ⟨List.nodup_nil, nofun⟩
  | cons style styles ih =>
    obtain ⟨name, hname, h⟩ := bind_eq_ok_iff.mp h
    obtain ⟨rest, hrest, h⟩ := bind_eq_ok_iff.mp h
    obtain rfl := pure_eq_ok_iff.mp h
    have hnext := next_latest (styleSlug style) used
    obtain ⟨-, rfl⟩ := (pickStyleNameWithin_eq_ok_iff hnext).mp hname
    obtain ⟨hnodup, hfree⟩ := ih hrest
    refine ⟨List.nodup_cons.mpr ⟨fun hmem => hfree _ hmem List.mem_cons_self, hnodup⟩, ?_⟩
    exact List.forall_mem_cons.mpr ⟨hnext.versioned_notMem le_rfl,
      fun other hother hused => hfree other hother (List.mem_cons_of_mem _ hused)⟩

theorem exists_pickStyleNames (used styles : List String) :
    ∃ names, pickStyleNames none used styles = .ok names := by
  induction styles generalizing used with
  | nil => exact ⟨[], rfl⟩
  | cons style styles ih =>
    have hname := (pickStyleNameWithin_eq_ok_iff (next_latest (styleSlug style) used)).mpr
      ⟨legible_none _ used _, rfl⟩
    obtain ⟨names, hnames⟩ :=
      ih (versioned (styleSlug style) (latest (styleSlug style) used + 1) :: used)
    exact ⟨_ :: names, bind_eq_ok_iff.mpr ⟨_, hname, bind_eq_ok_iff.mpr ⟨names, hnames, rfl⟩⟩⟩

structure Versioning (used : List String) (next : List Char → Nat) : Prop where
  isNext : ∀ slug, Next slug used (next slug)
  free : ∀ slug, IsLeast {n | next slug ≤ n ∧ versioned slug n ∉ used} (next slug)
  pick : ∀ style, pickStyleNameWithin none style used =
    .ok (versioned (styleSlug style) (next (styleSlug style)))
  pickWithin : ∀ limit style name, pickStyleNameWithin limit style used = .ok name ↔
    Legible limit (styleSlug style) used (next (styleSlug style)) ∧
      name = versioned (styleSlug style) (next (styleSlug style))
  picks : ∀ styles, ∃ names, pickStyleNames none used styles = .ok names
  picksWithin : ∀ limit styles names, pickStyleNames limit used styles = .ok names →
    names = (styles.mapIdx fun i style =>
      versioned (styleSlug style) (next (styleSlug style) + timesBefore style (styles.take i))) ∧
    names.Nodup ∧ ∀ name ∈ names, name ∉ used

/-- Whatever names are in use, a style gets the version after the greatest one of its slug, and so
do styles that are picked one after another. -/
theorem exists_versioning (used : List String) :
    (∀ style, IsSlug (String.ofList (styleSlug style))) ∧
      pickStyleNameWithin (some digitLimit) = pickStyleName ∧
      ∃ next, Versioning used next := by
  obtain ⟨next, hnext⟩ : ∃ next : List Char → Nat, ∀ slug, Next slug used (next slug) :=
    ⟨_, fun slug => next_latest slug used⟩
  refine ⟨isSlug_styleSlug, pickStyleNameWithin_digitLimit, next, ?_⟩
  exact {
    isNext := hnext
    free := fun slug => ⟨⟨le_rfl, (hnext slug).versioned_notMem le_rfl⟩, fun _ h => h.1⟩
    pick := fun style => (pickStyleNameWithin_eq_ok_iff (hnext _)).mpr ⟨legible_none _ used _, rfl⟩
    pickWithin := fun _ _ _ => pickStyleNameWithin_eq_ok_iff (hnext _)
    picks := exists_pickStyleNames used
    picksWithin := fun _ _ _ h => ⟨pickStyleNames_eq hnext h, nodup_pickStyleNames h⟩ }

example : pickStyleName "Dark Mode!" ["dark-mode-v٠٣", "dark-mode-v2-v9", "dark-v7"] =
    .ok "dark-mode-v4" := by
  decide +kernel

end Flowplan.Signature
