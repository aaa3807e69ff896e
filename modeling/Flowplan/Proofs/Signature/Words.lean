import Flowplan.Proofs.Signature.Free
import Mathlib.Data.List.TakeWhile
import Mathlib.Order.Bounds.Basic

/-!
# Words for signatures

A signature gets the first free word from the place on to which its first
eight digits point, counted around the list, or the word at that place with
the least free number when every word is taken.
-/

namespace Flowplan

namespace Text

variable {c : Char} {cs : List Char} {n s : Nat}

def numeralMarks : List Char := ['-', '+', '_', 'x', 'X']

def hexAppend (n : Nat) (cs : List Char) : Option Nat :=
  cs.foldl (fun n c => n.bind fun n => (hexValue? c).map (16 * n + ·)) (some n)

theorem toNat_lt_of_hexValue? (h : (hexValue? c).isSome) : c.toNat < 128 := by
  rw [hexValue?] at h
  split at h
  · next hdigit =>
    simp only [Char.isDigit, Bool.and_eq_true, decide_eq_true_eq] at hdigit
    exact Nat.lt_of_le_of_lt hdigit.2 (by decide)
  · split at h
    · next hsmall => exact Nat.lt_of_le_of_lt hsmall.2 (by decide)
    · split at h
      · next hcapital => exact Nat.lt_of_le_of_lt hcapital.2 (by decide)
      · cases h

theorem digit_of_hexValue? (h : (hexValue? c).isSome) :
    digitIn 16 c = hexValue? c ∧ latinDigit c = c ∧ isWhiteSpace c = false ∧ c ∉ numeralMarks := by
  have hall : ∀ n < 128, (hexValue? (Char.ofNat n)).isSome →
      digitIn 16 (Char.ofNat n) = hexValue? (Char.ofNat n) ∧
      latinDigit (Char.ofNat n) = Char.ofNat n ∧ isWhiteSpace (Char.ofNat n) = false ∧
      Char.ofNat n ∉ numeralMarks := by
    decide +kernel
  simpa only [Char.ofNat_toNat] using hall c.toNat (toNat_lt_of_hexValue? h)
    (by rwa [Char.ofNat_toNat])

theorem sign_of_notMem (h : ∀ c ∈ cs, c ∉ numeralMarks) : sign cs = (false, cs) := by
  rw [sign.eq_def]
  split
  · exact absurd (h '-' (by simp)) (by decide)
  · exact absurd (h '+' (by simp)) (by decide)
  · rfl

theorem dropBaseMark_of_notMem (h : ∀ c ∈ cs, c ∉ numeralMarks) : dropBaseMark 16 cs = cs := by
  have hmark : ∀ c ∈ cs, (c == 'x' || c == 'X') = false := by
    intro c hc
    have hc := h c hc
    simp only [numeralMarks, List.mem_cons, not_or] at hc
    simp [hc]
  rw [dropBaseMark.eq_def]
  split
  · rw [hmark _ (by simp), if_neg Bool.false_ne_true]
  · rw [hmark _ (by simp), if_neg Bool.false_ne_true]
  · rfl

theorem dropWhile_eq_self {p : Char → Bool} (h : ∀ c ∈ cs, p c = false) : cs.dropWhile p = cs := by
  cases cs with
  | nil => rfl
  | cons c cs => exact List.dropWhile_cons_of_neg (by simp [h c List.mem_cons_self])

theorem trim_eq_self {p : Char → Bool} (h : ∀ c ∈ cs, p c = false) : trim p cs = cs := by
  have hreverse : ∀ c ∈ cs.reverse, p c = false := fun c hc => h c (List.mem_reverse.mp hc)
  rw [trim, trimEnd, dropWhile_eq_self h, dropWhile_eq_self hreverse, List.reverse_reverse]

theorem hexAppend_cons (n : Nat) (c : Char) (cs : List Char) :
    hexAppend n (c :: cs) = (hexValue? c).bind fun d => hexAppend (16 * n + d) cs := by
  cases hc : hexValue? c with
  | some d => simp [hexAppend, hc]
  | none =>
    have hnone : ∀ cs : List Char,
        cs.foldl (fun n c => n.bind fun n => (hexValue? c).map (16 * n + ·)) none = none := by
      intro cs
      induction cs with
      | nil => rfl
      | cons _ _ ih => exact ih
    simp [hexAppend, hc, hnone]

theorem exists_digitRun (h : hexAppend n cs = some s) : (∀ c ∈ cs, (hexValue? c).isSome) ∧
    ∃ digits, digitRun 16 cs = some digits ∧ digits.length = cs.length ∧
      digits.foldl (fun n d => 16 * n + d) n = s := by
  induction cs generalizing n with
  | nil => exact ⟨nofun, [], rfl, rfl, Option.some.inj h⟩
  | cons c cs ih =>
    rw [hexAppend_cons] at h
    obtain ⟨d, hd, h⟩ := Option.bind_eq_some_iff.mp h
    obtain ⟨hcs, digits, hrun, hlength, hvalue⟩ := ih h
    have hc : (hexValue? c).isSome := by simp [hd]
    refine ⟨List.forall_mem_cons.mpr ⟨hc, hcs⟩, d :: digits, ?_, by simp [hlength], hvalue⟩
    rw [digitRun, (digit_of_hexValue? hc).1, hd]
    dsimp only
    split
    · -- a low line is no digit
      exact absurd (digit_of_hexValue? (hcs '_' (by simp))).2.2.2 (by decide)
    · rw [hrun, Option.map_some]

theorem integer_of_hexAppend (hne : cs ≠ []) (h : hexAppend 0 cs = some s) :
    integer 16 (String.ofList cs) = .ok (s : Int) := by
  obtain ⟨hdigits, digits, hrun, hlength, hvalue⟩ := exists_digitRun h
  have hmarks : ∀ c ∈ cs, c ∉ numeralMarks := fun c hc => (digit_of_hexValue? (hdigits c hc)).2.2.2
  have htrim : trim isWhiteSpace cs = cs :=
    trim_eq_self fun c hc => (digit_of_hexValue? (hdigits c hc)).2.2.1
  have hlatin : cs.map latinDigit = cs :=
    (List.map_congr_left fun c hc => (digit_of_hexValue? (hdigits c hc)).2.1).trans (List.map_id cs)
  have hwhole : cs.takeWhile (fun c => c == '_' || (digitIn 16 c).isSome) = cs := by
    apply List.takeWhile_eq_self_iff.mpr
    intro c hc
    simp [(digit_of_hexValue? (hdigits c hc)).1, hdigits c hc]
  have hdigits : digitRun? 16 cs = some digits := by
    have hsome : digits ≠ [] := by
      rintro rfl
      exact hne (List.eq_nil_of_length_eq_zero hlength.symm)
    simp [digitRun?, hrun, hsome]
  have hleading : leadingDigits 16 cs = some (digits, true) := by
    simp [leadingDigits, hwhole, hdigits]
  simp only [integer, String.toList_ofList, htrim, sign_of_notMem hmarks, hlatin,
    dropBaseMark_of_notMem hmarks, hleading]
  rw [ofDigits, hvalue]
  rfl

end Text

namespace Signature

open Text

variable {signature : String} {s : Nat} {used : List String}

theorem seed_of_hexNumber? (h : hexNumber? 8 signature.toList = some s) :
    seed signature = .ok (s : Int) := by
  rw [hexNumber?] at h
  split at h
  · cases h
  · next hlength =>
    refine integer_of_hexAppend ?_ h
    apply List.ne_nil_of_length_pos
    rw [List.length_take]
    omega

theorem wordCount_pos : 0 < wordCount := by decide +kernel

theorem getElem?_words (n : Nat) : words[n % wordCount]? = some (wordAt n) := by
  have hlt : n % wordCount < words.length := Nat.mod_lt n wordCount_pos
  rw [wordAt, ← Int.natCast_emod, Int.toNat_natCast, List.getD_eq_getElem?_getD,
    List.getElem?_eq_getElem hlt]
  rfl

theorem exists_add_mod_eq {i n : Nat} (hi : i < n) (s : Nat) :
    ∃ offset < n, (s + offset) % n = i := by
  have hlt : s % n < n := Nat.mod_lt s (by omega)
  refine ⟨(i + (n - s % n)) % n, Nat.mod_lt _ (by omega), ?_⟩
  calc (s + (i + (n - s % n)) % n) % n
    _ = (s % n + (i + (n - s % n))) % n := by rw [Nat.add_mod_mod, Nat.mod_add_mod]
    _ = (i + n) % n := by congr 1; omega
    _ = i := by rw [Nat.add_mod_right, Nat.mod_eq_of_lt hi]

theorem exists_wordAt {word : String} (h : word ∈ words) (s : Nat) :
    ∃ offset < wordCount, wordAt (s + offset : Nat) = word := by
  obtain ⟨i, hi, rfl⟩ := List.getElem_of_mem h
  obtain ⟨offset, hbound, hplace⟩ := exists_add_mod_eq (n := wordCount) hi s
  refine ⟨offset, hbound, ?_⟩
  have hword := getElem?_words (s + offset)
  rw [hplace, List.getElem?_eq_getElem hi] at hword
  exact (Option.some.inj hword).symm

theorem isLeast_of_find? {p : Nat → Bool} {n k : Nat} (h : (List.range n).find? p = some k) :
    IsLeast {k | p k = true} k := by
  obtain ⟨hk, -, hbefore⟩ := List.find?_range_eq_some.mp h
  refine ⟨hk, fun j hj => Nat.le_of_not_lt fun hlt => ?_⟩
  have hfalse : p j = false := by simpa using hbefore j hlt
  exact Bool.false_ne_true (hfalse.symm.trans hj)

theorem freeNumber_isLeast (word : String) (used : List String) :
    IsLeast {n | 2 ≤ n ∧ numbered word n ∉ used} (freeNumber word used) := by
  obtain ⟨n, hn, hfree⟩ := exists_numbered_notMem word used
  rw [freeNumber, List.find?_map]
  cases hfound : (List.range (used.length + 1)).find? ((fun n => !used.contains (numbered word n)) ∘
    (· + 2)) with
  | none =>
    obtain ⟨k, hk, rfl⟩ := List.mem_map.mp hn
    have htaken := List.find?_eq_none.mp hfound k hk
    simp [hfree] at htaken
  | some k =>
    obtain ⟨hk, hbefore⟩ := isLeast_of_find? hfound
    refine ⟨⟨by simp, by simpa using hk⟩, fun n hn => ?_⟩
    obtain ⟨htwo, hfree⟩ := hn
    obtain ⟨j, rfl⟩ := Nat.exists_eq_add_of_le' htwo
    have hle : k ≤ j := hbefore (by simpa using hfree)
    simpa using hle

/-- The name that a place in the list of words gives, beside names that are in use. -/
structure FirstFree (s : Nat) (used : List String) (name : String) : Prop where
  notMem : name ∉ used
  word : (∃ word ∈ words, word ∉ used) →
    ∃ k, IsLeast {k | ∃ word, words[(s + k) % wordCount]? = some word ∧ word ∉ used} k ∧
      words[(s + k) % wordCount]? = some name
  number : (∀ word ∈ words, word ∈ used) →
    ∃ word n, words[s % wordCount]? = some word ∧ IsLeast {n | 2 ≤ n ∧ numbered word n ∉ used} n ∧
      name = numbered word n

theorem freeWord_eq (s : Nat) (used : List String) :
    freeWord s used = match (List.range wordCount).find? fun k => wordAt (s + k : Nat) ∉ used with
      | some k => wordAt (s + k : Nat)
      | none => numbered (wordAt s) (freeNumber (wordAt s) used) := by
  have htest : ((!used.contains ·) ∘ fun k : Nat => wordAt ((s : Int) + k)) =
      fun k : Nat => decide (wordAt (s + k : Nat) ∉ used) := by
    funext k
    simp
  unfold freeWord
  dsimp only
  rw [List.find?_map, htest]
  cases (List.range wordCount).find? fun k => wordAt (s + k : Nat) ∉ used <;> rfl

theorem firstFree_freeWord (s : Nat) (used : List String) : FirstFree s used (freeWord s used) := by
  have hfree := freeWord_notMem s used
  rw [freeWord_eq] at hfree ⊢
  cases hfound : (List.range wordCount).find? fun k => wordAt (s + k : Nat) ∉ used with
  | some k =>
    rw [hfound] at hfree
    obtain ⟨-, hbefore⟩ := isLeast_of_find? hfound
    have hword := getElem?_words (s + k)
    refine ⟨hfree, fun _ => ⟨k, ⟨⟨_, hword, hfree⟩, ?_⟩, hword⟩, fun hall => ?_⟩
    · rintro j ⟨word, hj, hunused⟩
      rw [getElem?_words] at hj
      obtain rfl := Option.some.inj hj
      exact hbefore (decide_eq_true hunused)
    · exact absurd (hall _ (List.mem_of_getElem? hword)) hfree
  | none =>
    rw [hfound] at hfree
    refine ⟨hfree, fun ⟨word, hword, hunused⟩ => ?_, fun _ => ?_⟩
    · -- the walk around the list would have met the word
      obtain ⟨offset, hbound, rfl⟩ := exists_wordAt hword s
      have htaken := List.find?_eq_none.mp hfound offset (List.mem_range.mpr hbound)
      exact absurd (decide_eq_true hunused) htaken
    · exact ⟨_, _, getElem?_words s, freeNumber_isLeast _ used, rfl⟩

/-- A signature whose first eight characters are hexadecimal digits gets a name
that is not in use: the first free word from the place on that the digits
write, and one with a number if there is none. -/
theorem firstFree_pickName (h : hexNumber? 8 signature.toList = some s) (used : List String) :
    ∃ name, pickName signature used = .ok name ∧ FirstFree s used name := by
  refine ⟨freeWord s used, ?_, firstFree_freeWord s used⟩
  rw [pickName, seed_of_hexNumber? h]
  rfl

/-- A signature that points to the last word: the walk goes on at the beginning of the list, and
once every word is taken the last one gets the first number that is free. -/
theorem firstFree_lastWord : hexNumber? 8 "0000019D5e".toList = some 413 ∧
    (pickName "0000019D5e" ["odyssey", "andromeda"] = .ok "orion" ∧
      FirstFree 413 ["odyssey", "andromeda"] "orion") ∧
    pickName "0000019D5e" (words ++ ["odyssey-2"]) = .ok "odyssey-3" := by
  have hplace : hexNumber? 8 "0000019D5e".toList = some 413 := by decide +kernel
  have hpick : pickName "0000019D5e" ["odyssey", "andromeda"] = .ok "orion" := by decide +kernel
  have hword : words[413 % wordCount]? = some "odyssey" := by decide +kernel
  have htwo : numbered "odyssey" 2 ∈ words ++ ["odyssey-2"] := by decide +kernel
  have hthree : numbered "odyssey" 3 ∉ words ++ ["odyssey-2"] := by decide +kernel
  obtain ⟨name, hname, hfirst⟩ := firstFree_pickName hplace ["odyssey", "andromeda"]
  obtain rfl : "orion" = name := Except.ok.inj (hpick.symm.trans hname)
  obtain ⟨full, hfull, hlast⟩ := firstFree_pickName hplace (words ++ ["odyssey-2"])
  obtain ⟨word, n, hat, hleast, rfl⟩ := hlast.number fun _ => List.mem_append_left _
  obtain rfl : "odyssey" = word := Option.some.inj (hword.symm.trans hat)
  obtain rfl : n = 3 := by
    have hle : n ≤ 3 := hleast.2 ⟨by decide, hthree⟩
    have hne : n ≠ 2 := fun h => hleast.1.2 (h ▸ htwo)
    have hge : 2 ≤ n := hleast.1.1
    omega
  have hnumbered : numbered "odyssey" 3 = "odyssey-3" := by decide +kernel
  exact ⟨hplace, ⟨hpick, hfirst⟩, hnumbered ▸ hfull⟩

end Signature

end Flowplan
