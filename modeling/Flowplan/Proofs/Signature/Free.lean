import Flowplan.Proofs.Fallible
import Flowplan.Signature.Names
import Mathlib.Data.List.Nodup
import Mathlib.Data.List.Perm.Subperm

namespace Flowplan

namespace Text

theorem digitValue_of_isDigit {c : Char} (h : c.isDigit = true) :
    digitValue c = some (c.toNat - '0'.toNat) := by
  have hrange : 48 ≤ c.toNat ∧ c.toNat ≤ 57 := by
    simp only [Char.isDigit, Bool.and_eq_true, decide_eq_true_eq, ge_iff_le,
      UInt32.le_iff_toNat_le] at h
    exact h
  have hfirst : (48 ≤ c.toNat && c.toNat < 48 + 10) = true := by
    simp only [Bool.and_eq_true, decide_eq_true_eq]
    omega
  have hzeros : zeros = 48 :: zeros.tail := rfl
  rw [digitValue, hzeros, List.find?_cons, hfirst]
  rfl

def digitsOf (n : Nat) : List Nat := (Nat.toDigits 10 n).map fun c => c.toNat - '0'.toNat

theorem mapM_digitValue_toDigits (n : Nat) :
    (Nat.toDigits 10 n).mapM digitValue = some (digitsOf n) := by
  have hdigits : ∀ c ∈ Nat.toDigits 10 n, digitValue c = some (c.toNat - '0'.toNat) :=
    fun c hc => digitValue_of_isDigit (Nat.isDigit_of_mem_toDigits (by decide) (by decide) hc)
  rw [digitsOf]
  revert hdigits
  induction Nat.toDigits 10 n with
  | nil => exact fun _ => rfl
  | cons c cs ih =>
    intro hdigits
    rw [List.mapM_cons, hdigits c List.mem_cons_self,
      ih fun d hd => hdigits d (List.mem_cons_of_mem c hd)]
    rfl

theorem ofDigits_digitsOf (n : Nat) : ofDigits 10 (digitsOf n) = n := by
  rw [ofDigits, digitsOf, List.foldl_map, ← Nat.ofDigitChars_eq_foldl,
    Nat.ofDigitChars_ten_toDigits]

theorem toList_of_numeral? {n : Nat} {text : String} (h : numeral? n = .ok text) :
    text.toList = Nat.toDigits 10 n := by
  rw [numeral?] at h
  split at h
  · cases h
    exact Nat.toList_repr
  · cases h

end Text

namespace Signature

theorem toList_numbered (word : String) (n : Nat) :
    (numbered word n).toList = word.toList ++ '-' :: Nat.toDigits 10 n := by
  simp [numbered, toString]

theorem numbered_inj {word : String} {m n : Nat} (h : numbered word m = numbered word n) :
    m = n := by
  have hdigits : Nat.toDigits 10 m = Nat.toDigits 10 n := by
    have hlist := congrArg String.toList h
    simpa only [toList_numbered, List.append_cancel_left_eq, List.cons.injEq, true_and] using hlist
  rw [← Text.ofDigits_digitsOf m, ← Text.ofDigits_digitsOf n, Text.digitsOf, Text.digitsOf, hdigits]

theorem exists_numbered_notMem (word : String) (used : List String) :
    ∃ n ∈ (List.range (used.length + 1)).map (· + 2), numbered word n ∉ used := by
  by_contra hall
  push Not at hall
  have hnodup : (((List.range (used.length + 1)).map (· + 2)).map (numbered word)).Nodup :=
    (List.nodup_range.map fun _ _ h => by omega).map fun _ _ h => numbered_inj h
  have hsubset : ((List.range (used.length + 1)).map (· + 2)).map (numbered word) ⊆ used := by
    intro name hname
    obtain ⟨n, hn, rfl⟩ := List.mem_map.mp hname
    exact hall n hn
  have hlength := (hnodup.subperm hsubset).length_le
  simp only [List.length_map, List.length_range] at hlength
  omega

theorem numbered_freeNumber_notMem (word : String) (used : List String) :
    numbered word (freeNumber word used) ∉ used := by
  have hsome : (((List.range (used.length + 1)).map (· + 2)).find? fun n =>
      !used.contains (numbered word n)).isSome := by
    obtain ⟨n, hn, hfree⟩ := exists_numbered_notMem word used
    exact List.find?_isSome.mpr ⟨n, hn, by simpa using hfree⟩
  obtain ⟨n, hn⟩ := Option.isSome_iff_exists.mp hsome
  rw [freeNumber, hn]
  simpa using List.find?_some hn

theorem freeWord_notMem (position : Int) (used : List String) : freeWord position used ∉ used := by
  unfold freeWord
  dsimp only
  split
  · next word hword => simpa using List.find?_some hword
  · exact numbered_freeNumber_notMem _ used

theorem pickName_notMem {signature name : String} {used : List String}
    (h : pickName signature used = .ok name) : name ∉ used := by
  rw [pickName] at h
  cases hseed : seed signature with
  | error e => simp [hseed, Except.map] at h
  | ok position =>
    simp only [hseed, Except.map, Except.ok.injEq] at h
    exact h ▸ freeWord_notMem position used

theorem versionDigits?_of_toList {slug : List Char} {name : String} {n : Nat}
    (h : name.toList = slug ++ ['-', 'v'] ++ Nat.toDigits 10 n) :
    versionDigits? slug name = some (Text.digitsOf n) := by
  have hlast : ((Nat.toDigits 10 n).getLast? == some '\n') = false := by
    rw [beq_eq_false_iff_ne]
    intro heq
    have hdigit := Nat.isDigit_of_mem_toDigits (by decide) (by decide) (List.mem_of_getLast? heq)
    exact absurd hdigit (by decide)
  have hempty : (Nat.toDigits 10 n).isEmpty = false :=
    List.isEmpty_eq_false_iff.mpr Nat.toDigits_ne_nil
  have hprefix : (slug ++ ['-', 'v']).isPrefixOf (slug ++ ['-', 'v'] ++ Nat.toDigits 10 n) = true :=
    List.isPrefixOf_iff_prefix.mpr (List.prefix_append _ _)
  rw [versionDigits?, h, List.drop_left, hlast, if_neg Bool.false_ne_true, hprefix, hempty]
  exact Text.mapM_digitValue_toDigits n

theorem le_foldl_max {n start : Nat} {versions : List Nat} (h : n ≤ start ∨ n ∈ versions) :
    n ≤ versions.foldl max start := by
  induction versions generalizing start with
  | nil => simpa using h
  | cons version versions ih =>
    refine ih ?_
    rcases h with h | h
    · exact .inl (Nat.le_trans h (Nat.le_max_left start version))
    · rcases List.mem_cons.mp h with rfl | h
      · exact .inl (Nat.le_max_right start n)
      · exact .inr h

theorem version_digitsOf {n version : Nat} (h : Signature.version (Text.digitsOf n) = .ok version) :
    version = n := by
  rw [Signature.version] at h
  split at h
  · cases h
  · rw [Text.ofDigits_digitsOf] at h
    exact (Except.ok.inj h).symm

theorem lt_nextVersion {slug : List Char} {used : List String} {name : String} {n next : Nat}
    (h : nextVersion slug used = .ok next) (hused : name ∈ used)
    (hname : name.toList = slug ++ ['-', 'v'] ++ Nat.toDigits 10 n) : n < next := by
  obtain ⟨versions, hversions, hnext⟩ := bind_eq_ok_iff.mp h
  have hdigits : Text.digitsOf n ∈ used.filterMap (versionDigits? slug) :=
    List.mem_filterMap.mpr ⟨name, hused, versionDigits?_of_toList hname⟩
  obtain ⟨version, hversion, hread⟩ := exists_right_of_mem (mapM_eq_ok_iff.mp hversions) hdigits
  obtain rfl := version_digitsOf hread
  have hle : version ≤ versions.foldl max 0 := le_foldl_max (.inr hversion)
  have hsucc : versions.foldl max 0 + 1 = next := pure_eq_ok_iff.mp hnext
  omega

theorem toList_of_pickStyleName {style name : String} {used : List String}
    (h : pickStyleName style used = .ok name) : ∃ n, nextVersion (styleSlug style) used = .ok n ∧
      name.toList = styleSlug style ++ ['-', 'v'] ++ Nat.toDigits 10 n := by
  obtain ⟨n, hnext, h⟩ := bind_eq_ok_iff.mp h
  obtain ⟨numeral, hnumeral, h⟩ := bind_eq_ok_iff.mp h
  obtain rfl := pure_eq_ok_iff.mp h
  exact ⟨n, hnext, by simp [Text.toList_of_numeral? hnumeral]⟩

theorem pickStyleName_notMem {style name : String} {used : List String}
    (h : pickStyleName style used = .ok name) : name ∉ used := by
  obtain ⟨n, hnext, hname⟩ := toList_of_pickStyleName h
  intro hused
  exact Nat.lt_irrefl n (lt_nextVersion hnext hused hname)

end Signature

end Flowplan
