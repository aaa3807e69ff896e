namespace Flowplan.Text

def segments (separator : Char) : List Char → List (List Char)
  | [] => [[]]
  | c :: cs =>
    if c == separator then [] :: segments separator cs
    else
      match segments separator cs with
      | [] => [[c]]
      | piece :: rest => (c :: piece) :: rest

def cut (separator : Char) : List Char → List Char × Option (List Char)
  | [] => ([], none)
  | c :: cs =>
    if c == separator then ([], some cs)
    else
      let (before, after) := cut separator cs
      (c :: before, after)

def joinWith (separator : List Char) : List (List Char) → List Char
  | [] => []
  | [piece] => piece
  | piece :: rest => piece ++ separator ++ joinWith separator rest

def occursIn (part : List Char) : List Char → Bool
  | [] => part.isEmpty
  | c :: cs => part.isPrefixOf (c :: cs) || occursIn part cs

theorem segments_ne_nil (separator : Char) (cs : List Char) : segments separator cs ≠ [] := by
  induction cs with
  | nil => simp [segments]
  | cons c cs ih =>
    simp only [segments]
    split
    · simp
    · split <;> simp

theorem joinWith_segments (separator : Char) (cs : List Char) :
    joinWith [separator] (segments separator cs) = cs := by
  induction cs with
  | nil => rfl
  | cons c cs ih =>
    simp only [segments]
    split
    · rename_i h
      have h : c = separator := by simpa using h
      cases hs : segments separator cs with
      | nil => exact absurd hs (segments_ne_nil _ _)
      | cons piece rest => simp [joinWith, ← hs, ih, h]
    · cases hs : segments separator cs with
      | nil => exact absurd hs (segments_ne_nil _ _)
      | cons piece rest =>
        rw [hs] at ih
        cases rest with
        | nil => simpa [joinWith] using ih
        | cons next rest => simpa [joinWith] using ih

theorem notMem_cut (separator : Char) (cs : List Char) : separator ∉ (cut separator cs).1 := by
  induction cs with
  | nil => simp [cut]
  | cons c cs ih => by_cases h : c = separator <;> simp [cut, h, ih, Ne.symm]

theorem exists_eq_cut_append (separator : Char) (cs : List Char) :
    ∃ rest, cs = (cut separator cs).1 ++ rest ∧ (rest = [] ∨ [separator] <+: rest) := by
  induction cs with
  | nil => exact ⟨[], rfl, .inl rfl⟩
  | cons c cs ih =>
    by_cases h : c = separator
    · exact ⟨c :: cs, by simp [cut, h]⟩
    · obtain ⟨rest, hcs, hrest⟩ := ih
      exact ⟨rest, by simpa [cut, h] using hcs, hrest⟩

theorem isSome_cut (separator : Char) (cs : List Char) :
    (cut separator cs).2.isSome = cs.contains separator := by
  induction cs with
  | nil => rfl
  | cons c cs ih => by_cases h : c = separator <;> simp [cut, h, ih, Ne.symm]

theorem cut_append {separator : Char} {before rest : List Char} (hbefore : separator ∉ before)
    (hrest : rest = [] ∨ [separator] <+: rest) : (cut separator (before ++ rest)).1 = before := by
  induction before with
  | nil =>
    rcases hrest with rfl | ⟨more, rfl⟩
    · rfl
    · simp [cut]
  | cons c before ih =>
    obtain ⟨hc, hbefore⟩ : separator ≠ c ∧ separator ∉ before := by simpa using hbefore
    simp [cut, Ne.symm hc, ih hbefore]

theorem cut_of_notMem {separator : Char} {cs : List Char} (h : separator ∉ cs) :
    cut separator cs = (cs, none) := by
  induction cs with
  | nil => rfl
  | cons c cs ih =>
    obtain ⟨hc, hcs⟩ : separator ≠ c ∧ separator ∉ cs := by simpa using h
    simp [cut, Ne.symm hc, ih hcs]

theorem cut_append_cons {separator : Char} {before : List Char} (h : separator ∉ before)
    (after : List Char) : cut separator (before ++ separator :: after) = (before, some after) := by
  induction before with
  | nil => simp [cut]
  | cons c before ih =>
    obtain ⟨hc, hbefore⟩ : separator ≠ c ∧ separator ∉ before := by simpa using h
    simp [cut, Ne.symm hc, ih hbefore]

theorem cut_fst_eq_iff {separator : Char} {cs before : List Char} :
    (cut separator cs).1 = before ↔
      separator ∉ before ∧ ∃ rest, cs = before ++ rest ∧ (rest = [] ∨ [separator] <+: rest) := by
  constructor
  · rintro rfl
    exact ⟨notMem_cut separator cs, exists_eq_cut_append separator cs⟩
  · rintro ⟨hbefore, rest, rfl, hrest⟩
    exact cut_append hbefore hrest

theorem segments_eq_cons (separator : Char) (cs : List Char) :
    ∃ rest, segments separator cs = (cut separator cs).1 :: rest := by
  induction cs with
  | nil => exact ⟨[], rfl⟩
  | cons c cs ih =>
    obtain ⟨rest, ih⟩ := ih
    by_cases h : c = separator
    · exact ⟨segments separator cs, by simp [segments, cut, h]⟩
    · exact ⟨rest, by simp [segments, cut, h, ih]⟩

theorem segments_eq_cut (separator : Char) (cs : List Char) : segments separator cs =
    (cut separator cs).1 :: ((cut separator cs).2.map (segments separator)).getD [] := by
  induction cs with
  | nil => rfl
  | cons c cs ih => by_cases h : c = separator <;> simp [segments, cut, h, ih]

theorem notMem_of_mem_segments {separator : Char} {piece cs : List Char}
    (h : piece ∈ segments separator cs) : separator ∉ piece := by
  induction cs generalizing piece with
  | nil => simp [List.mem_singleton.mp h]
  | cons c cs ih =>
    obtain ⟨rest, hsegments⟩ := segments_eq_cons separator cs
    by_cases hc : c = separator
    · rw [segments, if_pos (beq_iff_eq.mpr hc)] at h
      rcases List.mem_cons.mp h with rfl | h
      · exact List.not_mem_nil
      · exact ih h
    · rw [segments, if_neg (by simpa using hc), hsegments] at h
      rw [hsegments] at ih
      rcases List.mem_cons.mp h with rfl | h
      · simp [Ne.symm hc, ih List.mem_cons_self]
      · exact ih (.tail _ h)

theorem joinWith_singleton_cons (separator : Char) (piece : List Char) (pieces : List (List Char)) :
    joinWith [separator] (piece :: pieces) = piece ++ pieces.flatMap (separator :: ·) := by
  induction pieces generalizing piece with
  | nil => simp [joinWith]
  | cons next pieces ih => rw [joinWith, ih] <;> simp

theorem infix_joinWith {separator piece : List Char} {pieces : List (List Char)}
    (h : piece ∈ pieces) : piece <:+: joinWith separator pieces := by
  induction pieces with
  | nil => cases h
  | cons first pieces ih =>
    cases pieces with
    | nil => exact List.mem_singleton.mp h ▸ List.infix_rfl
    | cons second pieces =>
      rw [joinWith]
      · rcases List.mem_cons.mp h with rfl | h
        · exact (List.prefix_append _ _).isInfix.trans (List.prefix_append _ _).isInfix
        · exact (ih h).trans (List.suffix_append _ _).isInfix
      · nofun

def isSlugChar (c : Char) : Bool := ('a' ≤ c && c ≤ 'z') || ('0' ≤ c && c ≤ '9')

/-- The small form of a character as far as a slug can show it: besides the ASCII capitals only two
characters have small forms with an ASCII letter, the kelvin sign and the dotted capital I. -/
def smallForm (c : Char) : List Char :=
  if 'A' ≤ c ∧ c ≤ 'Z' then [Char.ofNat (c.toNat + 32)]
  else if c == '\u212A' then ['k']
  else if c == '\u0130' then ['i', '\u0307']
  else [c]

def slugRuns : List Char → List (List Char)
  | [] => []
  | c :: cs =>
    if isSlugChar c then
      match cs, slugRuns cs with
      | d :: _, run :: rest => if isSlugChar d then (c :: run) :: rest else [c] :: run :: rest
      | _, rest => [c] :: rest
    else slugRuns cs

def slug (gap : Char) (text : String) : List Char :=
  joinWith [gap] (slugRuns (text.toList.flatMap smallForm))

end Flowplan.Text
