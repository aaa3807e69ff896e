import Flowplan.Proofs.Signature.Free

/-!
# Paths of flows

A name that is picked for a workflow is runs of small letters and digits with single hyphens
between them, so that the path of a flow tells its scope and its name.
-/

namespace Flowplan

namespace Text

def AreRuns (runs : List (List Char)) : Prop :=
  ∀ run ∈ runs, run ≠ [] ∧ ∀ c ∈ run, isSlugChar c = true

variable {runs : List (List Char)} {run rest : List Char} {gap c : Char}

theorem AreRuns.head (h : AreRuns (run :: runs)) : run ≠ [] ∧ ∀ c ∈ run, isSlugChar c = true :=
  h run List.mem_cons_self

theorem AreRuns.tail (h : AreRuns (run :: runs)) : AreRuns runs :=
  fun other hother => h other (List.mem_cons_of_mem run hother)

theorem AreRuns.cons (h : AreRuns runs) (hne : run ≠ []) (hrun : ∀ c ∈ run, isSlugChar c = true) :
    AreRuns (run :: runs) :=
  fun other hother => (List.mem_cons.mp hother).elim (fun heq => heq ▸ ⟨hne, hrun⟩) (h other)

theorem slugRuns_cons_gap (h : isSlugChar gap = false) (rest : List Char) :
    slugRuns (gap :: rest) = slugRuns rest := by
  rw [slugRuns.eq_def]
  simp [h]

theorem slugRuns_cons_of_gap (hc : isSlugChar c = true)
    (hrest : ∀ d ∈ rest.head?, isSlugChar d = false) :
    slugRuns (c :: rest) = [c] :: slugRuns rest := by
  rw [slugRuns.eq_def]
  cases rest with
  | nil => simp [hc]
  | cons d rest =>
    have hd : isSlugChar d = false := hrest d rfl
    cases hruns : slugRuns (d :: rest) with
    | nil => simp [hc, hruns]
    | cons run more => simp [hc, hd, hruns]

theorem slugRuns_cons_of_cons {d : Char} (hc : isSlugChar c = true) (hd : isSlugChar d = true)
    (hruns : slugRuns (d :: rest) = run :: runs) : slugRuns (c :: d :: rest) =
      (c :: run) :: runs := by
  rw [slugRuns.eq_def]
  simp [hc, hd, hruns]

theorem slugRuns_ne_nil (hc : isSlugChar c = true) (cs : List Char) : slugRuns (c :: cs) ≠ [] := by
  rw [slugRuns.eq_def]
  dsimp only
  rw [if_pos hc]
  split
  · split <;> simp
  · simp

theorem slugRuns_append (hne : run ≠ []) (hrun : ∀ c ∈ run, isSlugChar c = true)
    (hrest : ∀ d ∈ rest.head?, isSlugChar d = false) :
    slugRuns (run ++ rest) = run :: slugRuns rest := by
  induction run with
  | nil => exact absurd rfl hne
  | cons c run ih =>
    have hc : isSlugChar c = true := hrun c List.mem_cons_self
    cases run with
    | nil => exact slugRuns_cons_of_gap hc hrest
    | cons d run =>
      have hruns := ih (by simp) fun e he => hrun e (List.mem_cons_of_mem c he)
      exact slugRuns_cons_of_cons hc (hrun d (by simp)) hruns

theorem joinWith_cons_cons (separator run next : List Char) (more : List (List Char)) :
    joinWith separator (run :: next :: more) =
      run ++ separator ++ joinWith separator (next :: more) := rfl

theorem slugRuns_joinWith (hgap : isSlugChar gap = false) (h : AreRuns runs) :
    slugRuns (joinWith [gap] runs) = runs := by
  induction runs with
  | nil => rfl
  | cons run runs ih =>
    obtain ⟨hne, hrun⟩ := h.head
    cases runs with
    | nil =>
      have hlast : slugRuns (run ++ []) = run :: slugRuns [] := slugRuns_append hne hrun (by simp)
      rwa [List.append_nil] at hlast
    | cons next more =>
      rw [joinWith_cons_cons, List.append_assoc, List.singleton_append,
        slugRuns_append hne hrun (by simpa using hgap), slugRuns_cons_gap hgap, ih h.tail]

theorem areRuns_slugRuns (cs : List Char) : AreRuns (slugRuns cs) := by
  induction cs with
  | nil => exact fun _ h => nomatch h
  | cons c cs ih =>
    cases hc : isSlugChar c with
    | false => exact (slugRuns_cons_gap hc cs) ▸ ih
    | true =>
      cases cs with
      | nil =>
        rw [slugRuns_cons_of_gap hc (by simp)]
        exact ih.cons (List.cons_ne_nil c []) (by simpa using hc)
      | cons d cs =>
        -- the next character is a gap, or its run is the one that begins here
        cases hd : isSlugChar d with
        | false =>
          rw [slugRuns_cons_of_gap hc (by simpa using hd)]
          exact ih.cons (List.cons_ne_nil c []) (by simpa using hc)
        | true =>
          cases hruns : slugRuns (d :: cs) with
          | nil => exact absurd hruns (slugRuns_ne_nil hd cs)
          | cons run runs =>
            rw [hruns] at ih
            rw [slugRuns_cons_of_cons hc hd hruns]
            exact ih.tail.cons (List.cons_ne_nil c run) fun e he =>
              (List.mem_cons.mp he).elim (fun heq => heq ▸ hc) (ih.head.2 e)

theorem mem_joinWith {separator : List Char} (h : c ∈ joinWith separator runs) :
    c ∈ separator ∨ ∃ run ∈ runs, c ∈ run := by
  induction runs with
  | nil => cases h
  | cons run runs ih =>
    cases runs with
    | nil => exact .inr ⟨run, List.mem_cons_self, h⟩
    | cons next more =>
      rw [joinWith_cons_cons, List.append_assoc, List.mem_append, List.mem_append] at h
      rcases h with h | h | h
      · exact .inr ⟨run, List.mem_cons_self, h⟩
      · exact .inl h
      · refine (ih h).imp_right fun ⟨other, hother, hc⟩ =>
          ⟨other, List.mem_cons_of_mem run hother, hc⟩

theorem joinWith_concat {separator : List Char} (h : runs ≠ []) (run : List Char) :
    joinWith separator (runs ++ [run]) = joinWith separator runs ++ separator ++ run := by
  induction runs with
  | nil => exact absurd rfl h
  | cons first runs ih =>
    cases runs with
    | nil => rfl
    | cons next more =>
      have hmore := ih (List.cons_ne_nil next more)
      simp only [List.cons_append, joinWith_cons_cons] at hmore ⊢
      rw [hmore]
      simp

theorem smallForm_of_isSlugChar (h : isSlugChar c = true) : smallForm c = [c] := by
  have hrange : 'a'.toNat ≤ c.toNat ∨ c.toNat ≤ '9'.toNat := by
    simp only [isSlugChar, Bool.or_eq_true, Bool.and_eq_true, decide_eq_true_eq] at h
    exact h.imp (fun h => h.1) (fun h => h.2)
  have hcapital : ¬ ('A' ≤ c ∧ c ≤ 'Z') := by
    rintro ⟨hge, hle⟩
    have hge : 'A'.toNat ≤ c.toNat := hge
    have hle : c.toNat ≤ 'Z'.toNat := hle
    simp at hrange hge hle
    omega
  have hother : ∀ d, isSlugChar d = false → (c == d) = false := by
    intro d hd
    rw [beq_eq_false_iff_ne]
    rintro rfl
    simp [h] at hd
  rw [smallForm, if_neg hcapital, hother '\u212A' (by decide), hother '\u0130' (by decide)]
  rfl

def IsSlug (text : String) : Prop := ∃ runs ≠ [], AreRuns runs ∧ text.toList = joinWith ['-'] runs

theorem slug_of_areRuns {text : String} (h : AreRuns runs)
    (htext : text.toList = joinWith ['-'] runs) (gap : Char) :
    slug gap text = joinWith [gap] runs := by
  have hsmall : (joinWith ['-'] runs).flatMap smallForm = joinWith ['-'] runs := by
    have hone : ∀ c ∈ joinWith ['-'] runs, smallForm c = [c] := by
      intro c hc
      rcases mem_joinWith hc with hc | ⟨run, hrun, hc⟩
      · obtain rfl := List.mem_singleton.mp hc
        decide
      · exact smallForm_of_isSlugChar ((h run hrun).2 c hc)
    rw [List.flatMap_congr hone, List.flatMap_singleton']
  rw [slug, htext, hsmall, slugRuns_joinWith (by decide) h]

theorem IsSlug.eq_of_slug {a b : String} (ha : IsSlug a) (hb : IsSlug b)
    (hgap : isSlugChar gap = false) (h : slug gap a = slug gap b) : a = b := by
  obtain ⟨runs, _, hruns, htext⟩ := ha
  obtain ⟨runs', _, hruns', htext'⟩ := hb
  rw [slug_of_areRuns hruns htext, slug_of_areRuns hruns' htext'] at h
  obtain rfl : runs = runs' := by
    rw [← slugRuns_joinWith hgap hruns, h, slugRuns_joinWith hgap hruns']
  exact String.ext (htext.trans htext'.symm)

theorem isSlug_of_slug {text other : String} (h : text.toList = slug '-' other)
    (hne : text.toList ≠ []) : IsSlug text := by
  refine ⟨_, ?_, areRuns_slugRuns _, h⟩
  intro hnil
  rw [h, slug, hnil] at hne
  exact hne rfl

theorem IsSlug.concat {text name : String} (h : IsSlug text) (hne : run ≠ [])
    (hrun : ∀ c ∈ run, isSlugChar c = true) (hname : name.toList = text.toList ++ '-' :: run) :
    IsSlug name := by
  obtain ⟨runs, hruns, hall, htext⟩ := h
  refine ⟨runs ++ [run], by simp, fun other hother => ?_, ?_⟩
  · rcases List.mem_append.mp hother with hother | hother
    · exact hall other hother
    · exact List.mem_singleton.mp hother ▸ ⟨hne, hrun⟩
  · rw [hname, htext, joinWith_concat hruns, List.append_assoc, List.singleton_append]

theorem isSlugChar_of_isDigit (h : c.isDigit = true) : isSlugChar c = true := by
  simp only [Char.isDigit, Bool.and_eq_true, decide_eq_true_eq] at h
  simp only [isSlugChar, Bool.or_eq_true, Bool.and_eq_true, decide_eq_true_eq]
  exact .inr h

theorem isSlugChar_of_mem_toDigits {n : Nat} (h : c ∈ Nat.toDigits 10 n) : isSlugChar c = true :=
  isSlugChar_of_isDigit (Nat.isDigit_of_mem_toDigits (by decide) (by decide) h)

end Text

namespace Signature

open Text

theorem isSlug_of_mem_words {word : String} (h : word ∈ words) : IsSlug word := by
  have hall : ∀ word ∈ words,
      (segments '-' word.toList).all (fun run => !run.isEmpty && run.all isSlugChar) = true := by
    decide +kernel
  refine ⟨segments '-' word.toList, segments_ne_nil _ _, fun run hrun => ?_,
    (joinWith_segments _ _).symm⟩
  simpa using List.all_eq_true.mp (hall word h) run hrun

theorem wordAt_mem_words (position : Int) : wordAt position ∈ words := by
  have hcount : (0 : Int) < words.length := by decide +kernel
  have hnonneg := Int.emod_nonneg position (Int.ne_of_gt hcount)
  have hbound := Int.emod_lt_of_pos position hcount
  have hlt : (position % words.length).toNat < words.length := by omega
  rw [wordAt, wordCount, List.getD_eq_getElem?_getD, List.getElem?_eq_getElem hlt]
  exact List.getElem_mem hlt

theorem isSlug_freeWord (position : Int) (used : List String) :
    IsSlug (freeWord position used) := by
  unfold freeWord
  dsimp only
  split
  · next word hword =>
    obtain ⟨offset, _, rfl⟩ := List.mem_map.mp (List.mem_of_find?_eq_some hword)
    exact isSlug_of_mem_words (wordAt_mem_words _)
  · exact (isSlug_of_mem_words (wordAt_mem_words position)).concat Nat.toDigits_ne_nil
      (fun _ => isSlugChar_of_mem_toDigits) (toList_numbered _ _)

theorem isSlug_of_pickName {signature name : String} {used : List String}
    (h : pickName signature used = .ok name) : IsSlug name := by
  rw [pickName] at h
  cases hseed : seed signature with
  | error e => simp [hseed, Except.map] at h
  | ok position =>
    simp only [hseed, Except.map, Except.ok.injEq] at h
    exact h ▸ isSlug_freeWord position used

theorem isSlug_styleSlug (style : String) : IsSlug (String.ofList (styleSlug style)) := by
  rw [styleSlug]
  split
  · exact isSlug_of_slug (show _ = slug '-' "style" by decide +kernel) (by decide)
  · next hne => exact isSlug_of_slug String.toList_ofList (by simpa using hne)

theorem isSlug_of_pickStyleName {style name : String} {used : List String}
    (h : pickStyleName style used = .ok name) : IsSlug name := by
  obtain ⟨n, _, hname⟩ := toList_of_pickStyleName h
  have hname' : name.toList = (String.ofList (styleSlug style)).toList ++ '-' :: 'v' ::
      Nat.toDigits 10 n := by
    simpa using hname
  refine (isSlug_styleSlug style).concat (List.cons_ne_nil 'v' (Nat.toDigits 10 n))
    (fun c hc => ?_) hname'
  rcases List.mem_cons.mp hc with rfl | hc
  · decide
  · exact isSlugChar_of_mem_toDigits hc

theorem toList_flowPath (scope name : String) :
    (flowPath scope name).toList =
      "f/workflows/".toList ++ (scope.toList ++ '/' :: slug '_' name) := by
  simp [flowPath, toString]

theorem slash_notMem_slug {name : String} (h : IsSlug name) : '/' ∉ slug '_' name := by
  obtain ⟨runs, _, hruns, hname⟩ := h
  rw [slug_of_areRuns hruns hname]
  intro hslash
  rcases mem_joinWith hslash with hslash | ⟨run, hrun, hslash⟩
  · exact absurd hslash (by decide)
  · exact absurd ((hruns run hrun).2 '/' hslash) (by decide)

theorem eq_and_eq_of_append_cons {a b c d : List Char} {separator : Char} (hb : separator ∉ b)
    (hd : separator ∉ d) (h : a ++ separator :: b = c ++ separator :: d) : a = c ∧ b = d := by
  rcases List.append_eq_append_iff.mp h with ⟨more, hc, htail⟩ | ⟨more, ha, htail⟩
  · cases more with
    | nil => exact ⟨by simpa using hc.symm, by simpa using htail⟩
    | cons e more => exact absurd (List.cons.inj htail).2 fun h => hb (by simp [h])
  · cases more with
    | nil => exact ⟨by simpa using ha, by simpa using htail.symm⟩
    | cons e more => exact absurd (List.cons.inj htail).2 fun h => hd (by simp [h])

theorem eq_of_flowPath {scope scope' name name' : String} (hname : IsSlug name)
    (hname' : IsSlug name') (h : flowPath scope name = flowPath scope' name') :
    scope = scope' ∧ name = name' := by
  have hlist := congrArg String.toList h
  rw [toList_flowPath, toList_flowPath, List.append_cancel_left_eq] at hlist
  obtain ⟨hscope, hslug⟩ :=
    eq_and_eq_of_append_cons (slash_notMem_slug hname) (slash_notMem_slug hname') hlist
  exact ⟨String.ext hscope, hname.eq_of_slug hname' (by decide) hslug⟩

end Signature

end Flowplan
