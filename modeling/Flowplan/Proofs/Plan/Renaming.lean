import Flowplan.Proofs.Plan.Cases

/-!
# Renamed ids

Ids in an expression are renamed from left to right, at each place the longest one that stands
there. A pattern with the ids as alternatives finds the same ones if it tries longer alternatives
first, whatever the order among those of one length.
-/

namespace Flowplan

/-- A pattern of texts that is matched by backtracking. -/
inductive Pattern
  | boundary
  | literal (text : List Char)
  | oneOf (alternatives : List (List Char))
  | notBefore (set : Char → Bool)
  | sequence (first second : Pattern)

namespace Pattern

/-- What a pattern matches at the start of a text, after some
character, in the order in which it is tried. -/
def found : Pattern → Option Char → List Char → List (List Char)
  | .boundary, before, text =>
    if before.any Text.isWord != text.head?.any Text.isWord then [[]] else []
  | .literal part, _, text => if part.isPrefixOf text then [part] else []
  | .oneOf alternatives, _, text => alternatives.filter (·.isPrefixOf text)
  | .notBefore set, _, text => if text.head?.any set then [] else [[]]
  | .sequence first second, before, text => (first.found before text).flatMap fun part =>
      (second.found (part.getLast?.or before) (text.drop part.length)).map (part ++ ·)

def replaceAll (pattern : Pattern) (replacement : List Char → List Char) :
    Nat → Option Char → List Char → List Char
  | _, _, [] => []
  | skipped + 1, _, c :: text => replaceAll pattern replacement skipped (some c) text
  | 0, before, c :: text =>
    match (pattern.found before (c :: text)).head? with
    | some part =>
      replacement part ++ replaceAll pattern replacement (part.length - 1) (some c) text
    | none => c :: replaceAll pattern replacement 0 (some c) text

variable {first second : Pattern} {before : Option Char} {text part : List Char}

theorem found_sequence_of_nil (h : first.found before text = []) :
    (sequence first second).found before text = [] := by
  rw [found, h, List.flatMap_nil]

theorem found_sequence_of_singleton (h : first.found before text = [part]) :
    (sequence first second).found before text =
      (second.found (part.getLast?.or before) (text.drop part.length)).map (part ++ ·) := by
  rw [found, h, List.flatMap_singleton]

end Pattern

namespace Expression

open ModuleId Text

variable {ids tried : List (List Char)} {id other text rest : List Char} {before : Option Char}

/-- An id stands at the start of a text after an access that starts a
word, and no id goes on behind it. -/
def Occurs (ids : List Char → Prop) (before : Option Char) (text id : List Char) : Prop :=
  ids id ∧ (∀ c ∈ before, isWord c = false) ∧
    ∃ rest, text = access ++ id ++ rest ∧ ∀ c ∈ rest.head?, continuesId c = false

theorem not_any_iff {p : Char → Bool} {found : Option Char} :
    (!found.any p) = true ↔ ∀ c ∈ found, p c = false := by
  cases found <;> simp

theorem standsAt_iff : standsAt text id = true ↔
    ∃ rest, text = id ++ rest ∧ ∀ c ∈ rest.head?, continuesId c = false := by
  rw [standsAt, Bool.and_eq_true, List.isPrefixOf_iff_prefix, not_any_iff]
  constructor
  · rintro ⟨⟨rest, rfl⟩, hends⟩
    rw [List.drop_left] at hends
    exact ⟨rest, rfl, hends⟩
  · rintro ⟨rest, rfl, hends⟩
    rw [List.drop_left]
    exact ⟨List.prefix_append id rest, hends⟩

theorem occurs_iff : Occurs (· ∈ ids) before text id ↔
    (access.isPrefixOf text && !before.any isWord) = true ∧
    id ∈ ids.filter (standsAt (text.drop access.length)) := by
  rw [Occurs, List.mem_filter, Bool.and_eq_true, List.isPrefixOf_iff_prefix, not_any_iff,
    standsAt_iff]
  constructor
  · rintro ⟨hmem, hstart, rest, rfl, hends⟩
    rw [List.append_assoc]
    exact ⟨⟨List.prefix_append _ _, hstart⟩, hmem, rest, List.drop_left, hends⟩
  · rintro ⟨⟨⟨tail, rfl⟩, hstart⟩, hmem, rest, htail, hends⟩
    rw [List.drop_left] at htail
    exact ⟨hmem, hstart, rest, by rw [htail, List.append_assoc], hends⟩

theorem Occurs.eq {p : List Char → Prop} (h : Occurs p before text id)
    (hother : Occurs p before text other) (hlength : id.length = other.length) : id = other := by
  obtain ⟨_, _, rest, rfl, _⟩ := h
  obtain ⟨_, _, rest', htext, _⟩ := hother
  rw [List.append_assoc, List.append_assoc, List.append_cancel_left_eq] at htext
  exact (List.append_inj htext hlength).1

theorem longest_eq_none_iff : longest ids = none ↔ ids = [] := by
  cases ids with
  | nil => simp [longest]
  | cons id ids => cases hrest : longest ids <;> simp [longest, hrest]

theorem length_le_of_longest (h : longest ids = some id) (hother : other ∈ ids) :
    other.length ≤ id.length := by
  induction ids generalizing id with
  | nil => cases hother
  | cons first rest ih =>
    rw [longest] at h
    cases hrest : longest rest with
    | none =>
      obtain rfl := longest_eq_none_iff.mp hrest
      obtain rfl := List.mem_singleton.mp hother
      obtain rfl : other = id := by simpa [hrest] using h
      exact Nat.le_refl _
    | some best =>
      simp only [hrest, Option.some_inj] at h
      rcases List.mem_cons.mp hother with rfl | hother
      · split at h <;> subst h <;> omega
      · have hbest := ih hrest hother
        split at h <;> subst h <;> omega

theorem renamedAt_eq_none_iff :
    renamedAt ids before text = none ↔ ∀ id, ¬ Occurs (· ∈ ids) before text id := by
  simp only [occurs_iff, renamedAt]
  split
  · next hstart => simp [hstart, longest_eq_none_iff, List.eq_nil_iff_forall_not_mem]
  · next hstart => simp [hstart]

theorem renamedAt_eq_some_iff :
    renamedAt ids before text = some id ↔ Occurs (· ∈ ids) before text id ∧
      ∀ other, Occurs (· ∈ ids) before text other → other.length ≤ id.length := by
  have hlongest : ∀ {found}, renamedAt ids before text = some found →
      Occurs (· ∈ ids) before text found ∧
      ∀ other, Occurs (· ∈ ids) before text other → other.length ≤ found.length := by
    intro found hfound
    rw [renamedAt] at hfound
    split at hfound
    · next hstart =>
      exact ⟨occurs_iff.mpr ⟨hstart, mem_of_longest hfound⟩,
        fun other hother => length_le_of_longest hfound (occurs_iff.mp hother).2⟩
    · cases hfound
  refine ⟨hlongest, fun hid => ?_⟩
  obtain ⟨hoccurs, hmax⟩ := hid
  cases hfound : renamedAt ids before text with
  | none => exact absurd hoccurs (renamedAt_eq_none_iff.mp hfound id)
  | some found =>
    obtain ⟨hfound, hfoundMax⟩ := hlongest hfound
    rw [hfound.eq hoccurs (Nat.le_antisymm (hmax found hfound) (hfoundMax id hoccurs))]

/-- An expression and what becomes of it: where an id stands the longest one is renamed, and the
rest follows after it; everything else stays. -/
inductive Renames (ids : List Char → Prop) : Option Char → List Char → List Char → Prop
  | done {before : Option Char} : Renames ids before [] []
  | rename {before : Option Char} {id rest result : List Char} :
      Occurs ids before (access ++ id ++ rest) id →
      (∀ other, Occurs ids before (access ++ id ++ rest) other → other.length ≤ id.length) →
      Renames ids (access ++ id).getLast? rest result →
      Renames ids before (access ++ id ++ rest) (access ++ ofChars id ++ result)
  | keep {before : Option Char} {c : Char} {text result : List Char} :
      (∀ id, ¬ Occurs ids before (c :: text) id) → Renames ids (some c) text result →
      Renames ids before (c :: text) (c :: result)

theorem rename_eq_drop (ids : List (List Char)) (skipped : Nat) (before : Option Char)
    (text : List Char) : rename ids skipped before text =
      rename ids 0 ((text.take skipped).getLast?.or before) (text.drop skipped) := by
  induction text generalizing skipped before with
  | nil => simp [rename]
  | cons c text ih =>
    cases skipped with
    | zero => simp
    | succ skipped =>
      rw [rename, ih, List.take_succ_cons, List.drop_succ_cons, List.getLast?_cons]
      cases (text.take skipped).getLast? <;> rfl

theorem rename_of_renamedAt (h : renamedAt ids before (access ++ id ++ rest) = some id) :
    rename ids 0 before (access ++ id ++ rest) =
      access ++ ofChars id ++ rename ids 0 (access ++ id).getLast? rest := by
  obtain ⟨c, text, htext⟩ : ∃ c text, access ++ id = c :: text := ⟨'r', _, rfl⟩
  have hlength : access.length + id.length - 1 = text.length := by
    rw [← List.length_append, htext, List.length_cons, Nat.add_sub_cancel]
  rw [htext, List.cons_append] at h ⊢
  rw [rename, h]
  dsimp only
  rw [rename_eq_drop, hlength, List.take_left, List.drop_left, List.getLast?_cons]
  cases text.getLast? <;> rfl

theorem rename_eq_of_renames {result : List Char} (h : Renames (· ∈ ids) before text result) :
    rename ids 0 before text = result := by
  induction h with
  | done => rfl
  | rename hoccurs hmax _ ih =>
    rw [rename_of_renamedAt (renamedAt_eq_some_iff.mpr ⟨hoccurs, hmax⟩), ih]
  | keep hnone _ ih => rw [rename, renamedAt_eq_none_iff.mpr hnone, ih]

theorem renames_rename (ids : List (List Char)) (before : Option Char) (text : List Char) :
    Renames (· ∈ ids) before text (rename ids 0 before text) := by
  induction hlength : text.length using Nat.strongRecOn generalizing before text with
  | ind length ih =>
    cases text with
    | nil => exact .done
    | cons c text =>
      cases hfound : renamedAt ids before (c :: text) with
      | none =>
        rw [rename, hfound]
        exact .keep (renamedAt_eq_none_iff.mp hfound) (ih text.length (by simp [← hlength]) _ _ rfl)
      | some id =>
        obtain ⟨hoccurs, hmax⟩ := renamedAt_eq_some_iff.mp hfound
        obtain ⟨rest, htext⟩ := (eq_append_of_renamedAt hfound).2
        rw [htext] at hfound hoccurs hmax hlength ⊢
        rw [rename_of_renamedAt hfound]
        refine .rename hoccurs hmax (ih rest.length ?_ _ _ rfl)
        have haccess : 0 < access.length := by decide
        rw [← hlength, List.length_append, List.length_append]
        omega

def pattern (tried : List (List Char)) : Pattern :=
  .sequence .boundary
    (.sequence (.literal access) (.sequence (.oneOf tried) (.notBefore continuesId)))

def replacement (found : List Char) : List Char := access ++ ofChars (found.drop access.length)

theorem found_ids (tried : List (List Char)) (before : Option Char) (text : List Char) :
    (Pattern.sequence (.oneOf tried) (.notBefore continuesId)).found before text =
      tried.filter (standsAt text) := by
  rw [Pattern.found, Pattern.found]
  induction tried with
  | nil => rfl
  | cons id tried ih =>
    rw [List.filter_cons, List.filter_cons, standsAt]
    cases id.isPrefixOf text with
    | false => exact ih
    | true =>
      rw [if_pos rfl, List.flatMap_cons, ih, Pattern.found]
      cases (text.drop id.length).head?.any continuesId <;> simp

theorem found_pattern (tried : List (List Char)) (before : Option Char) (text : List Char) :
    (pattern tried).found before text = if access.isPrefixOf text && !before.any isWord then
      (tried.filter (standsAt (text.drop access.length))).map (access ++ ·) else [] := by
  have hboundary : Pattern.boundary.found before text =
      if before.any isWord != text.head?.any isWord then [[]] else [] := rfl
  cases hprefix : access.isPrefixOf text with
  | false =>
    have hrest : (Pattern.sequence (.literal access)
        (.sequence (.oneOf tried) (.notBefore continuesId))).found before text = [] :=
      Pattern.found_sequence_of_nil (by rw [Pattern.found, hprefix]; rfl)
    rw [pattern]
    split at hboundary
    · rw [Pattern.found_sequence_of_singleton hboundary]
      exact congrArg (List.map _) hrest
    · exact Pattern.found_sequence_of_nil hboundary
  | true =>
    have hword : text.head?.any isWord = true := by
      obtain ⟨tail, rfl⟩ := List.isPrefixOf_iff_prefix.mp hprefix
      rw [List.head?_append, show access.head? = some 'r' from rfl]
      rfl
    rw [hword] at hboundary
    cases hbefore : before.any isWord with
    | true => exact Pattern.found_sequence_of_nil (by rw [hboundary, hbefore]; rfl)
    | false =>
      have hliteral : (Pattern.literal access).found before text = [access] := by
        rw [Pattern.found, hprefix, if_pos rfl]
      rw [pattern, Pattern.found_sequence_of_singleton (by rw [hboundary, hbefore]; rfl)]
      rw [List.getLast?_nil, Option.none_or, List.length_nil, List.drop_zero,
        Pattern.found_sequence_of_singleton hliteral, found_ids]
      simp

/-- Longer alternatives come first, so the first one that matches is the longest one. -/
theorem head_found_pattern (hids : ∀ id, id ∈ tried ↔ id ∈ ids)
    (hsorted : tried.Pairwise fun id other => other.length ≤ id.length) :
    ((pattern tried).found before text).head? = (renamedAt ids before text).map (access ++ ·) := by
  have hoccurs : ∀ id, Occurs (· ∈ ids) before text id ↔
      (access.isPrefixOf text && !before.any isWord) = true ∧
      id ∈ tried.filter (standsAt (text.drop access.length)) :=
    fun id => by simp only [← occurs_iff, Occurs, hids]
  rw [found_pattern]
  split
  · next hstart =>
    simp only [hstart, true_and] at hoccurs
    cases hfound : tried.filter (standsAt (text.drop access.length)) with
    | nil =>
      have hnone : renamedAt ids before text = none :=
        renamedAt_eq_none_iff.mpr fun id hid => by simpa [hfound] using (hoccurs id).mp hid
      rw [hnone]
      rfl
    | cons first more =>
      have hlongest : ∀ other ∈ first :: more, other.length ≤ first.length :=
        List.forall_mem_cons.mpr ⟨Nat.le_refl _,
          (List.pairwise_cons.mp (hfound ▸ hsorted.filter _)).1⟩
      rw [hfound] at hoccurs
      have hsome : renamedAt ids before text = some first :=
        renamedAt_eq_some_iff.mpr ⟨(hoccurs first).mpr List.mem_cons_self,
          fun other hother => hlongest other ((hoccurs other).mp hother)⟩
      rw [hsome]
      rfl
  · next hstart =>
    have hnone : renamedAt ids before text = none :=
      renamedAt_eq_none_iff.mpr fun id hid => hstart ((hoccurs id).mp hid).1
    rw [hnone]
    rfl

theorem replaceAll_pattern (hids : ∀ id, id ∈ tried ↔ id ∈ ids)
    (hsorted : tried.Pairwise fun id other => other.length ≤ id.length) (skipped : Nat)
    (before : Option Char) (text : List Char) :
    (pattern tried).replaceAll replacement skipped before text =
      rename ids skipped before text := by
  induction skipped, before, text using rename.induct ids with
  | case1 skipped before => simp [rename, Pattern.replaceAll]
  | case2 skipped before c text ih => rw [Pattern.replaceAll, rename, ih]
  | case3 before c text id hid ih =>
    rw [Pattern.replaceAll, head_found_pattern hids hsorted, rename, hid]
    simp only [Option.map_some, List.length_append, ih, replacement, List.drop_left]
  | case4 before c text hnone ih =>
    rw [Pattern.replaceAll, head_found_pattern hids hsorted, rename, hnone]
    simp only [Option.map_none, ih]

def Renamed (ids : List String) (id : List Char) : Prop := String.ofList id ∈ ids ∧ ofChars id ≠ id

theorem mem_renamed_iff {ids : List String} {id : List Char} : id ∈ renamed ids ↔
    Renamed ids id := by
  rw [renamed, List.mem_filter, bne_iff_ne, List.mem_map, Renamed]
  refine and_congr_left fun _ => ⟨?_, fun hmem => ⟨_, hmem, String.toList_ofList⟩⟩
  rintro ⟨name, hname, rfl⟩
  rwa [String.ofList_toList]

/-- Normalizing renames the longest id at each place, from left to right. So it depends on
nothing but which ids there are to rename, and a pattern that tries longer ids first does the
same, in whatever order it has ids of one length. -/
theorem normalize_exact (expr : String) (ids : List String) :
    (∀ result : String, Renames (Renamed ids) none expr.toList result.toList ↔
      normalize expr ids = result) ∧
    (∀ others : List String, (∀ id, Renamed ids id ↔ Renamed others id) →
      normalize expr ids = normalize expr others) ∧
    ∀ tried : List (List Char), (∀ id, id ∈ tried ↔ Renamed ids id) →
      tried.Pairwise (fun id other => other.length ≤ id.length) →
      String.ofList ((pattern tried).replaceAll replacement 0 none expr.toList) =
        normalize expr ids := by
  have hids : ∀ ids, Renamed ids = (· ∈ renamed ids) :=
    fun _ => funext fun _ => propext mem_renamed_iff.symm
  have hrenames : ∀ result : String, Renames (Renamed ids) none expr.toList result.toList ↔
      normalize expr ids = result := by
    intro result
    rw [hids, normalize]
    constructor
    · intro h
      rw [rename_eq_of_renames h, String.ofList_toList]
    · rintro rfl
      rw [String.toList_ofList]
      exact renames_rename (renamed ids) none expr.toList
  refine ⟨hrenames, fun others hothers => ?_, fun tried htried hsorted => ?_⟩
  · refine (hrenames _).mp ?_
    rw [funext fun id => propext (hothers id), hids, normalize, String.toList_ofList]
    exact renames_rename (renamed others) none expr.toList
  · rw [normalize, replaceAll_pattern (fun id => (htried id).trans mem_renamed_iff.symm) hsorted]

def overlapping : List String := ["lead", "fetch-lead", "fetch-lead-v2"]

theorem normalize_overlapping :
    Renames (Renamed overlapping) none "results.fetch-lead-v2.ok".toList
      "results.fetch_lead_v2.ok".toList ∧
    ((∀ id, Renamed overlapping id ↔ Renamed ["fetch-lead-v2", "fetch-lead"] id) ∧
      normalize "results.fetch-lead-v2.ok" ["fetch-lead-v2", "fetch-lead"] =
        "results.fetch_lead_v2.ok") ∧
    (∀ id, id ∈ ["fetch-lead-v2".toList, "fetch-lead".toList] ↔ Renamed overlapping id) ∧
    ["fetch-lead-v2".toList, "fetch-lead".toList].Pairwise
      (fun id other => other.length ≤ id.length) ∧
    String.ofList ((pattern ["fetch-lead-v2".toList, "fetch-lead".toList]).replaceAll
      replacement 0 none "results.fetch-lead-v2.ok".toList) = "results.fetch_lead_v2.ok" := by
  have hnormalize : normalize "results.fetch-lead-v2.ok" overlapping =
      "results.fetch_lead_v2.ok" := by decide
  have hrenamed : renamed overlapping = ["fetch-lead".toList, "fetch-lead-v2".toList] := by decide
  have hothers : ∀ id,
      Renamed overlapping id ↔ Renamed ["fetch-lead-v2", "fetch-lead"] id := fun id => by
    rw [← mem_renamed_iff, ← mem_renamed_iff, hrenamed,
      show renamed ["fetch-lead-v2", "fetch-lead"] =
        ["fetch-lead-v2".toList, "fetch-lead".toList] by decide]
    exact (List.Perm.swap _ _ []).mem_iff
  have htried : ∀ id, id ∈ ["fetch-lead-v2".toList, "fetch-lead".toList] ↔
      Renamed overlapping id := fun id => by
    rw [← mem_renamed_iff, hrenamed]
    exact (List.Perm.swap _ _ []).mem_iff
  have hsorted : ["fetch-lead-v2".toList, "fetch-lead".toList].Pairwise
      (fun id other => other.length ≤ id.length) := by
    decide
  obtain ⟨hrenames, hids, hpattern⟩ := normalize_exact "results.fetch-lead-v2.ok" overlapping
  refine ⟨(hrenames _).mpr hnormalize, ⟨hothers, ?_⟩, htried, hsorted, ?_⟩
  · rw [← hids _ hothers, hnormalize]
  · rw [hpattern _ htried hsorted, hnormalize]

end Expression

end Flowplan
