import Flowplan.Json.Parser
import Flowplan.Plan.Params
import Flowplan.Proofs.Json.Compact

/-!
# Object literals

A reader of object literals: properties whose names are identifiers or quoted, objects
that are spread in place, later properties in place of earlier ones, and values as
JSON has them. No name means anything else than a property, not even `__proto__`. It
reads the compact text of a value as the value.
-/

namespace Flowplan

namespace Json

variable {rest : List Char} {c : Char}

theorem hexNumber_append {width : Nat} {digits : List Char} (h : digits.length = width)
    (rest : List Char) : Text.hexNumber? width (digits ++ rest) = Text.hexNumber? width digits := by
  subst h
  simp [Text.hexNumber?]

theorem hexNumber_hexDigits : ∀ n : Fin 32, (hexDigits 4 n).length = 4 ∧
    Text.hexNumber? 4 (hexDigits 4 n) = some n.val := by
  decide +kernel

theorem exists_escaped (h : isPlain c = false) (hrest : rest ≠ []) :
    ∃ more, escapeChar false c = '\\' :: more ∧
    ∀ whole, Parser.escaped .lenient whole (more ++ rest) = .ok (c, rest) := by
  by_cases hshort : c ∈ ['"', '\\', '\n', '\r', '\t', '\x08', '\x0c']
  · simp only [List.mem_cons, List.not_mem_nil, or_false] at hshort
    rcases hshort with rfl | rfl | rfl | rfl | rfl | rfl | rfl <;> exact ⟨_, rfl, fun _ => rfl⟩
  · -- a control character, by its number in four digits
    simp only [List.mem_cons, List.not_mem_nil, or_false, not_or] at hshort
    obtain ⟨hquote, hslash, hline, hreturn, htab, hback, hfeed⟩ := hshort
    have hcode : c.toNat < 0x20 := by simpa [isPlain, hquote, hslash] using h
    have hescape : escapeChar false c = escapeUnit c.toNat := by
      have hplane : c.toNat < 0x10000 := by omega
      simp [escapeChar, escapeCode, hquote, hslash, hline, hreturn, htab, hback, hfeed,
        hcode, hplane]
    obtain ⟨hlength, hnumber⟩ := hexNumber_hexDigits ⟨c.toNat, hcode⟩
    refine ⟨_, hescape, fun whole => ?_⟩
    have hunit : Parser.hexUnit (hexDigits 4 c.toNat ++ rest) = some c.toNat := by
      rw [Parser.hexUnit, List.drop_append_of_le_length hlength.ge, hexNumber_append hlength,
        hnumber]
      simp [hlength, hrest]
    have hhigh : Text.isHigh c.toNat = false := by simp [Text.isHigh]; omega
    have hlow : Text.isLow c.toNat = false := by simp [Text.isLow]; omega
    have hdrop : (hexDigits 4 c.toNat ++ rest).drop 4 = rest := List.drop_left' hlength
    simp [Parser.escaped, hunit, hhigh, hlow, hdrop]

theorem length_le_flatMap_escapeChar (text : List Char) :
    text.length ≤ (text.flatMap (escapeChar false)).length := by
  induction text with
  | nil => exact Nat.le_refl _
  | cons c text ih =>
    obtain ⟨first, more, hescape, _⟩ := exists_escapeChar_cons c
    simp only [List.flatMap_cons, hescape, List.length_append, List.length_cons]
    omega

theorem text_escapes {fuel : Nat} {text : List Char} (opening read : List Char)
    (hfuel : text.length < fuel) :
    Parser.text .lenient opening fuel read (text.flatMap (escapeChar false) ++ '"' :: rest) =
      .ok (read.reverse ++ text, rest) := by
  induction text generalizing fuel read with
  | nil =>
    cases fuel with
    | zero => cases hfuel
    | succ fuel => simp [Parser.text]
  | cons c text ih =>
    cases fuel with
    | zero => cases hfuel
    | succ fuel =>
      replace ih := ih (c :: read) (Nat.lt_of_succ_lt_succ hfuel)
      rw [List.flatMap_cons, List.append_assoc]
      generalize hmore : text.flatMap (escapeChar false) ++ '"' :: rest = more at ih ⊢
      have hne : more ≠ [] := by simp [← hmore]
      cases hplain : isPlain c with
      | true =>
        simp only [isPlain, Bool.and_eq_true, bne_iff_ne, decide_eq_true_eq] at hplain
        rw [escapeChar_of_isPlain (by simpa [isPlain] using hplain), List.singleton_append]
        obtain ⟨⟨hquote, hslash⟩, hcode⟩ := hplain
        rw [Parser.text, if_neg (Nat.not_lt.mpr hcode), ih, List.reverse_cons, List.append_assoc,
          List.singleton_append]
        · rintro ⟨⟩
          exact hquote rfl
        · rintro ⟨⟩
          exact hslash rfl
      | false =>
        obtain ⟨escape, hescape, hescaped⟩ := exists_escaped hplain hne
        have hsome : (escape ++ more).isEmpty = false := by simp [hne]
        simpa [hescape, Parser.text, hsome, hescaped, bind, Except.bind] using ih

theorem quoted_quote (name rest : List Char) :
    Parser.quoted .lenient (name.flatMap (escapeChar false) ++ '"' :: rest) =
      .ok (String.ofList name, rest) := by
  have hlength := length_le_flatMap_escapeChar name
  rw [Parser.quoted, text_escapes]
  · rfl
  · rw [List.length_append]
    omega

end Json

/-- A value as a literal says it: a word for a number or a constant, a
text, a list, or an object. -/
inductive Literal
  | word (text : List Char)
  | text (value : String)
  | list (items : List Literal)
  | object (fields : List (String × Literal))

namespace Literal

open Json (marks Ends)
open Json.Parser (isBlank skipBlank quoted)

mutual

def ofJson : Json → Literal
  | .null => .word (Json.null.write .compact 0)
  | .bool value => .word ((Json.bool value).write .compact 0)
  | .int n => .word ((Json.int n).write .compact 0)
  | .float x => .word ((Json.float x).write .compact 0)
  | .str s => .text s
  | .arr items => .list (ofItems items)
  | .obj fields => .object (ofFields fields)
termination_by structural j => j

def ofItems : List Json → List Literal
  | [] => []
  | x :: xs => ofJson x :: ofItems xs
termination_by structural j => j

def ofFields : List (String × Json) → List (String × Literal)
  | [] => []
  | x :: xs => ofField x :: ofFields xs
termination_by structural j => j

def ofField : String × Json → String × Literal
  | (name, x) => (name, ofJson x)
termination_by structural j => j

end

def isWordChar (c : Char) : Bool := !marks.contains c && !isBlank c

def readName (cs : List Char) : Option (String × List Char) :=
  match cs with
  | '"' :: rest => (quoted .lenient rest).toOption
  | _ =>
    let name := cs.takeWhile Params.isIdentifierChar
    if Params.isIdentifier name then some (String.ofList name, cs.dropWhile Params.isIdentifierChar)
    else none

def readMember (value : List Char → Option (Literal × List Char)) (read : Entries Literal)
    (cs : List Char) : Option (Entries Literal × List Char) :=
  if ['.', '.', '.'].isPrefixOf cs then
    match value (skipBlank (cs.drop 3)) with
    | some (.object fields, rest) => some (read.putAll fields, rest)
    | _ => none
  else do
    let (name, rest) ← readName cs
    match skipBlank rest with
    | ':' :: rest =>
      let (item, rest) ← value (skipBlank rest)
      return (read.put name item, rest)
    | _ => none

def readMore {σ : Type} (step : σ → List Char → Option (σ × List Char)) (close : Char) :
    Nat → σ → List Char → Option (σ × List Char)
  | 0, _, _ => none
  | fuel + 1, read, cs => do
    let (read, rest) ← step read cs
    match skipBlank rest with
    | c :: rest =>
      if c = close then some (read, rest)
      else if c = ',' then readMore step close fuel read (skipBlank rest)
      else none
    | [] => none

def readSeries {σ : Type} (step : σ → List Char → Option (σ × List Char)) (close : Char)
    (fuel : Nat) (start : σ) (cs : List Char) : Option (σ × List Char) :=
  match skipBlank cs with
  | c :: rest =>
    if c = close then some (start, rest) else readMore step close fuel start (c :: rest)
  | [] => none

def readValue : Nat → List Char → Option (Literal × List Char)
  | 0, _ => none
  | fuel + 1, cs =>
    match cs with
    | '"' :: rest => do
      let (value, rest) ← (quoted .lenient rest).toOption
      return (.text value, rest)
    | '[' :: rest => do
      let step := fun items cs =>
        (readValue fuel cs).map fun (item, rest) => (items ++ [item], rest)
      let (items, rest) ← readSeries step ']' fuel [] rest
      return (.list items, rest)
    | '{' :: rest => do
      let (fields, rest) ← readSeries (readMember (readValue fuel)) '}' fuel [] rest
      return (.object fields, rest)
    | _ =>
      let text := cs.takeWhile isWordChar
      if text.isEmpty then none else some (.word text, cs.dropWhile isWordChar)

/-- An object literal in parentheses. Every name in it is that of a property, also `__proto__`,
which an evaluator of scripts takes for the object from which properties are inherited. -/
def read (text : String) : Option Literal :=
  match text.toList with
  | '(' :: inner =>
    if inner.getLast? = some ')' then
      match readValue inner.length inner.dropLast with
      | some (.object fields, []) => some (.object fields)
      | _ => none
    else none
  | _ => none

variable {α σ : Type} {close : Char} {text rest blanks : List Char}

def Begins (close : Char) (text : List Char) : Prop :=
  ∃ c more, text = c :: more ∧ isBlank c = false ∧ c ≠ close

theorem skipBlank_cons {c : Char} (h : isBlank c = false) (rest : List Char) :
    skipBlank (c :: rest) = c :: rest := by
  simp [skipBlank, h]

theorem Begins.skipBlank_append (h : Begins close text) (rest : List Char) :
    skipBlank (text ++ rest) = text ++ rest := by
  obtain ⟨c, more, rfl, hc, _⟩ := h
  exact skipBlank_cons hc _

theorem skipBlank_blanks (h : ∀ c ∈ blanks, isBlank c = true) (rest : List Char) :
    skipBlank (blanks ++ rest) = skipBlank rest := by
  rw [skipBlank, skipBlank, List.dropWhile_append_of_pos h]

theorem isBlank_of_mem_marks : ∀ c ∈ marks, isBlank c = false := by
  simp [marks, isBlank]

theorem ne_of_true_of_false {p : Char → Bool} {c d : Char} (hc : p c = true) (hd : p d = false) :
    c ≠ d := ne_of_apply_ne p (by rw [hc, hd]; decide)

theorem isBlank_of_true {p : Char → Bool} {c : Char} (hc : p c = true)
    (h : [' ', '\t', '\n', '\r'].any p = false) : isBlank c = false := by
  have hne : ∀ d ∈ [' ', '\t', '\n', '\r'], c ≠ d := fun d hd =>
    ne_of_true_of_false hc (Bool.eq_false_of_not_eq_true (List.any_eq_false.mp h d hd))
  simp [isBlank, hne]

section Series

variable {step : σ → List Char → Option (σ × List Char)} {piece : α → List Char}
  {change : α → σ → σ} {xs : List α}

def Advances (step : σ → List Char → Option (σ × List Char)) (close : Char) (text : List Char)
    (change : σ → σ) : Prop :=
  Begins close text ∧ ∀ read rest, Ends rest → step read (text ++ rest) = some (change read, rest)

theorem begins_joinWith (blanks : List Char) (xs : List α) {x : α} (h : Begins close (piece x)) :
    Begins close (Text.joinWith (',' :: blanks) ((x :: xs).map piece)) := by
  obtain ⟨c, more, hpiece, hc⟩ := h
  cases xs with
  | nil => exact ⟨c, more, hpiece, hc⟩
  | cons y ys => exact ⟨c, _, by simp [Text.joinWith, hpiece]; rfl, hc⟩

theorem readMore_eq {fuel : Nat} {read read' : σ} {c : Char} {cs : List Char}
    (hstep : step read cs = some (read', c :: rest)) (hc : isBlank c = false) :
    readMore step close (fuel + 1) read cs =
      if c = close then some (read', rest)
      else if c = ',' then readMore step close fuel read' (skipBlank rest)
      else none := by
  simp [readMore, hstep, skipBlank_cons hc]

theorem readMore_joinWith (hclose : close ∈ marks) (hne : close ≠ ',')
    (hblanks : ∀ c ∈ blanks, isBlank c = true) {x : α}
    (h : ∀ y ∈ x :: xs, Advances step close (piece y) (change y)) {fuel : Nat} (read : σ)
    (hfuel : (Text.joinWith (',' :: blanks) ((x :: xs).map piece)).length < fuel) :
    readMore step close fuel read
        (Text.joinWith (',' :: blanks) ((x :: xs).map piece) ++ close :: rest) =
      some ((x :: xs).foldl (fun read y => change y read) read, rest) := by
  induction xs generalizing x fuel read with
  | nil =>
    obtain ⟨_, hstep⟩ := h x List.mem_cons_self
    obtain ⟨fuel, rfl⟩ := Nat.exists_eq_add_one.mpr (Nat.zero_lt_of_lt hfuel)
    have hends : Ends (close :: rest) := by rintro c ⟨⟩; exact hclose
    rw [List.map_singleton, Text.joinWith,
      readMore_eq (hstep read _ hends) (isBlank_of_mem_marks close hclose), if_pos rfl]
    rfl
  | cons y ys ih =>
    obtain ⟨_, hstep⟩ := h x List.mem_cons_self
    obtain ⟨hbegins, _⟩ := h y (.tail _ List.mem_cons_self)
    obtain ⟨fuel, rfl⟩ := Nat.exists_eq_add_one.mpr (Nat.zero_lt_of_lt hfuel)
    have hnext := begins_joinWith blanks ys hbegins
    have hjoin : Text.joinWith (',' :: blanks) ((x :: y :: ys).map piece) =
        piece x ++ ',' :: (blanks ++ Text.joinWith (',' :: blanks) ((y :: ys).map piece)) := by
      simp [Text.joinWith]
    have hlength := congrArg List.length hjoin
    simp only [List.length_append, List.length_cons] at hlength
    have hmore := ih (fun z hz => h z (.tail _ hz)) (change x read) (show _ < fuel by omega)
    rw [← hnext.skipBlank_append, ← skipBlank_blanks hblanks] at hmore
    have hends : ∀ more, Ends (',' :: more) := by rintro more c ⟨⟩; decide
    rw [hjoin, List.append_assoc, List.cons_append,
      readMore_eq (hstep read _ (hends _)) (by decide), if_neg (Ne.symm hne), if_pos rfl,
      List.append_assoc, hmore]
    rfl

theorem readSeries_joinWith (change : α → σ → σ) (hclose : close ∈ marks) (hne : close ≠ ',')
    (hblanks : ∀ c ∈ blanks, isBlank c = true)
    (h : ∀ x ∈ xs, Advances step close (piece x) (change x)) {fuel : Nat} (start : σ)
    (hfuel : (Text.joinWith (',' :: blanks) (xs.map piece)).length < fuel) :
    readSeries step close fuel start
        (Text.joinWith (',' :: blanks) (xs.map piece) ++ close :: rest) =
      some (xs.foldl (fun read x => change x read) start, rest) := by
  cases xs with
  | nil => simp [readSeries, Text.joinWith, skipBlank_cons (isBlank_of_mem_marks close hclose)]
  | cons x xs =>
    obtain ⟨hbegins, _⟩ := h x List.mem_cons_self
    have hjoin := begins_joinWith blanks xs hbegins
    rw [readSeries, hjoin.skipBlank_append, ← readMore_joinWith hclose hne hblanks h start hfuel]
    obtain ⟨c, more, heq, _, hc⟩ := hjoin
    rw [heq, List.cons_append]
    exact if_neg hc

end Series

structure Reads (text : List Char) (literal : Literal) : Prop where
  begins : Begins ']' text
  eq : ∀ fuel rest, text.length < fuel → Ends rest →
    readValue fuel (text ++ rest) = some (literal, rest)

structure Names (text : List Char) (name : String) : Prop where
  begins : Begins '}' text
  property : ∀ rest, ['.', '.', '.'].isPrefixOf (text ++ rest) = false
  eq : ∀ rest, readName (text ++ ':' :: rest) = some (name, ':' :: rest)

structure Puts (text : List Char) (fields : Entries Literal) : Prop where
  begins : Begins '}' text
  eq : ∀ fuel read rest, text.length < fuel → Ends rest →
    readMember (readValue fuel) read (text ++ rest) = some (read.putAll fields, rest)

variable {literal : Literal} {name : String}

theorem Names.puts (hname : Names text name) (hblanks : ∀ c ∈ blanks, isBlank c = true)
    {value : List Char} (hvalue : Reads value literal) :
    Puts (text ++ ':' :: (blanks ++ value)) [(name, literal)] where
  begins := by
    obtain ⟨c, more, rfl, hc⟩ := hname.begins
    exact ⟨c, _, rfl, hc⟩
  eq := fun fuel read rest hfuel hrest => by
    have hlength : value.length < fuel := by
      simp only [List.length_append, List.length_cons] at hfuel
      omega
    have hcolon : isBlank ':' = false := by decide
    rw [readMember, List.append_assoc, hname.property, if_neg Bool.false_ne_true,
      List.cons_append, hname.eq]
    simp [skipBlank_cons hcolon, skipBlank_blanks hblanks, hvalue.begins.skipBlank_append,
      hvalue.eq fuel rest hlength hrest]
    rfl

theorem Reads.puts {fields : Entries Literal} (h : Reads text (.object fields)) :
    Puts ('.' :: '.' :: '.' :: text) fields where
  begins := ⟨'.', _, rfl, by decide, by decide⟩
  eq := fun fuel read rest hfuel hrest => by
    have hlength : text.length < fuel := by
      simp only [List.length_cons] at hfuel
      omega
    simp [readMember, h.begins.skipBlank_append, h.eq fuel rest hlength hrest]

theorem names_quote (text : List Char) : Names (Json.quote false text) (String.ofList text) where
  begins := ⟨'"', _, rfl, by decide, by decide⟩
  property := fun rest => rfl
  eq := fun rest => by
    have hquote : Json.quote false text ++ ':' :: rest =
        '"' :: (text.flatMap (Json.escapeChar false) ++ '"' :: ':' :: rest) := by
      simp [Json.quote]
    rw [hquote, readName, Json.quoted_quote]
    rfl

theorem takeWhile_append_stop {p : Char → Bool} (h : ∀ c ∈ text, p c = true) (rest : List Char)
    (hrest : ∀ c ∈ rest.head?, p c = false) :
    (text ++ rest).takeWhile p = text ∧ (text ++ rest).dropWhile p = rest := by
  rw [List.takeWhile_append_of_pos h, List.dropWhile_append_of_pos h]
  cases rest with
  | nil => simp
  | cons c rest => simp [hrest c rfl]

theorem isIdentifier_of_notMem (h : '\n' ∉ text) : Params.isIdentifier text = true ↔
    ∃ c more, text = c :: more ∧ Params.isIdentifierStart c = true ∧ ∀ c ∈ text,
      Params.isIdentifierChar c = true := by
  have hlast : text.getLast? ≠ some '\n' := fun hlast => h (List.mem_of_getLast? hlast)
  rw [Params.isIdentifier]
  cases text with
  | nil => simp
  | cons c more => simp +contextual [hlast, Params.isIdentifierChar]

theorem names_identifier (hidentifier : Params.isIdentifier text = true) (hline : '\n' ∉ text) :
    Names text (String.ofList text) := by
  obtain ⟨c, more, rfl, hstart, hall⟩ := (isIdentifier_of_notMem hline).mp hidentifier
  have hne : ∀ d, Params.isIdentifierStart d = false → c ≠ d :=
    fun d hd => ne_of_true_of_false hstart hd
  have hblank : isBlank c = false := isBlank_of_true hstart (by decide)
  refine ⟨⟨c, more, rfl, hblank, hne '}' (by decide)⟩, fun rest => ?_, fun rest => ?_⟩
  · simp [List.isPrefixOf, (hne '.' (by decide)).symm]
  · obtain ⟨htake, hdrop⟩ := takeWhile_append_stop hall (':' :: rest) (by rintro c ⟨⟩; decide)
    rw [readName, htake, hdrop, if_pos hidentifier]
    rintro rest ⟨⟩
    exact hne '"' (by decide) rfl

theorem names_propertyName (h : Params.isIdentifier text = true → '\n' ∉ text) :
    Names (Params.propertyName text) (String.ofList text) := by
  rw [Params.propertyName]
  split
  · next hidentifier => exact names_identifier hidentifier (h hidentifier)
  · exact names_quote text

theorem reads_quote (s : String) : Reads (Json.quote false s.toList) (.text s) where
  begins := ⟨'"', _, rfl, by decide, by decide⟩
  eq := fun fuel rest hfuel hrest => by
    obtain ⟨fuel, rfl⟩ := Nat.exists_eq_add_one.mpr (Nat.zero_lt_of_lt hfuel)
    have hquote : Json.quote false s.toList ++ rest =
        '"' :: (s.toList.flatMap (Json.escapeChar false) ++ '"' :: rest) := by
      simp [Json.quote]
    rw [hquote, readValue, Json.quoted_quote, String.ofList_toList]
    rfl

theorem reads_word (hne : text ≠ []) (h : ∀ c ∈ text, isWordChar c = true) :
    Reads text (.word text) := by
  have hmark : ∀ c ∈ text, c ∉ marks ∧ isBlank c = false :=
    fun c hc => by simpa [isWordChar] using h c hc
  obtain ⟨c, more, rfl⟩ := List.exists_cons_of_ne_nil hne
  obtain ⟨hc, hblank⟩ := hmark c List.mem_cons_self
  have hother : ∀ d ∈ marks, c ≠ d := fun d hd heq => hc (heq ▸ hd)
  refine ⟨⟨c, more, rfl, hblank, hother ']' (by decide)⟩, fun fuel rest hfuel hrest => ?_⟩
  obtain ⟨fuel, rfl⟩ := Nat.exists_eq_add_one.mpr (Nat.zero_lt_of_lt hfuel)
  obtain ⟨htake, hdrop⟩ := takeWhile_append_stop h rest fun d hd => by
    simp [isWordChar, hrest d hd]
  rw [readValue, htake, hdrop]
  · rfl
  · rintro rest ⟨⟩
    exact hother '"' (by decide) rfl
  · rintro rest ⟨⟩
    exact hother '[' (by decide) rfl
  · rintro rest ⟨⟩
    exact hother '{' (by decide) rfl

section Series

variable {piece : α → List Char} {xs : List α}

theorem length_le_joinWith (piece : α → List Char) (separator : List Char) {x : α} (h : x ∈ xs) :
    (piece x).length ≤ (Text.joinWith separator (xs.map piece)).length :=
  (Text.infix_joinWith (List.mem_map_of_mem h)).length_le

theorem reads_list {item : α → Literal} (hblanks : ∀ c ∈ blanks, isBlank c = true)
    (h : ∀ x ∈ xs, Reads (piece x) (item x)) :
    Reads ('[' :: Text.joinWith (',' :: blanks) (xs.map piece) ++ [']']) (.list (xs.map item)) where
  begins := ⟨'[', _, rfl, by decide, by decide⟩
  eq := fun fuel rest hfuel hrest => by
    obtain ⟨fuel, rfl⟩ := Nat.exists_eq_add_one.mpr (Nat.zero_lt_of_lt hfuel)
    simp only [List.cons_append, List.length_cons, List.length_append, List.length_nil] at hfuel
    rw [List.cons_append, List.cons_append, List.append_assoc, readValue, List.singleton_append]
    dsimp only
    rw [readSeries_joinWith (fun x items => items ++ [item x]) (by decide) (by decide) hblanks]
    · simp [List.foldl_append_eq_append, ← List.flatMap_def, ← List.map_eq_flatMap]
    · intro x hx
      have hlength := length_le_joinWith piece (',' :: blanks) hx
      refine ⟨(h x hx).begins, fun items rest hrest => ?_⟩
      dsimp only
      rw [(h x hx).eq fuel rest (by omega) hrest]
      rfl
    · omega

theorem reads_object {fields : α → Entries Literal} (hblanks : ∀ c ∈ blanks, isBlank c = true)
    (h : ∀ x ∈ xs, Puts (piece x) (fields x)) :
    Reads ('{' :: Text.joinWith (',' :: blanks) (xs.map piece) ++ ['}'])
      (.object (Entries.putAll [] (xs.flatMap fields))) where
  begins := ⟨'{', _, rfl, by decide, by decide⟩
  eq := fun fuel rest hfuel hrest => by
    obtain ⟨fuel, rfl⟩ := Nat.exists_eq_add_one.mpr (Nat.zero_lt_of_lt hfuel)
    simp only [List.cons_append, List.length_cons, List.length_append, List.length_nil] at hfuel
    rw [List.cons_append, List.cons_append, List.append_assoc, readValue, List.singleton_append]
    rw [readSeries_joinWith (fun x read => read.putAll (fields x)) (by decide) (by decide) hblanks]
    · simp [Entries.putAll, List.foldl_flatMap]
    · intro x hx
      have hlength := length_le_joinWith piece (',' :: blanks) hx
      exact ⟨(h x hx).begins, fun read rest hrest => (h x hx).eq fuel read rest (by omega) hrest⟩
    · omega

end Series

theorem read_of_reads {fields : Entries Literal} (h : Reads text (.object fields)) :
    read (String.ofList ('(' :: text ++ [')'])) = some (.object fields) := by
  have hlast : (text ++ [')']).getLast? = some ')' := List.getLast?_concat
  have hvalue := h.eq (text ++ [')']).length [] (by simp) nofun
  rw [List.append_nil] at hvalue
  rw [read, String.toList_ofList, List.cons_append]
  simp only [hlast, if_true, List.dropLast_concat, hvalue]

theorem isBlank_of_isDigit {c : Char} (h : c.isDigit = true) : isBlank c = false :=
  isBlank_of_true h (by decide)

theorem isBlank_of_mem_unsigned (x : Double) :
    ∀ c ∈ x.unsigned Json.numberLayout, isBlank c = false := by
  rw [Double.unsigned]
  cases x.read with
  | finite negative significand exponent =>
    intro c hc
    rcases (NumberLayout.isDecimalText_writeDecimal _ _).mem c hc with hc | hc
    · exact isBlank_of_isDigit hc
    · exact (by simp [isBlank] : ∀ c ∈ ['.', 'e', '-', '+'], isBlank c = false) c hc
  | infinite negative => exact (by simp [isBlank] : ∀ c ∈ "Infinity".toList, isBlank c = false)
  | undefined => exact (by simp [isBlank] : ∀ c ∈ "NaN".toList, isBlank c = false)

theorem isBlank_of_isScalar {value : Json} (h : value.isScalar = true) :
    ∀ c ∈ value.write .compact 0, isBlank c = false := by
  cases value with
  | null => exact (by simp [isBlank] : ∀ c ∈ "null".toList, isBlank c = false)
  | bool value =>
    rw [Json.write_bool]
    cases value <;> simp [isBlank]
  | int n =>
    intro c hc
    have hnumeral := List.all_eq_true.mp (Json.isNumeral_toString n) c hc
    simp only [Bool.or_eq_true, beq_iff_eq] at hnumeral
    rcases hnumeral with hdigit | rfl
    · exact isBlank_of_isDigit hdigit
    · decide
  | float x =>
    rw [Json.write, Double.toList_write]
    intro c hc
    rcases List.mem_append.mp hc with hc | hc
    · rw [Double.signText] at hc
      split at hc
      · exact List.mem_singleton.mp hc ▸ (by decide)
      · cases hc
    · exact isBlank_of_mem_unsigned x c hc
  | _ => cases h

theorem reads_write_of_isScalar {value : Json} (h : value.isScalar = true) (depth : Nat) :
    Reads (value.write .compact depth) (ofJson value) := by
  have htext : value.write .compact depth = value.write .compact 0 ∧
      ofJson value = .word (value.write .compact 0) := by
    cases value with
    | bool value => cases value <;> exact ⟨rfl, rfl⟩
    | str s => cases h
    | arr items => cases h
    | obj fields => cases h
    | _ => exact ⟨rfl, rfl⟩
  rw [htext.1, htext.2]
  refine reads_word (Json.write_ne_nil_of_isScalar h) fun c hc => ?_
  simp [isWordChar, Json.notMem_marks_of_isScalar h c hc, isBlank_of_isScalar h c hc]

theorem ofJson_arr (items : List Json) : ofJson (.arr items) = .list (items.map ofJson) := by
  have hitems : ofItems items = items.map ofJson := by
    induction items with
    | nil => rfl
    | cons x items ih => simp [ofItems, ih]
  rw [ofJson, hitems]

theorem ofJson_obj (fields : Entries Json) :
    ofJson (.obj fields) = .object (fields.mapValues ofJson) := by
  have hfields : ofFields fields = Entries.mapValues ofJson fields := by
    induction fields with
    | nil => rfl
    | cons field fields ih =>
      obtain ⟨name, x⟩ := field
      simp [ofFields, ofField, Entries.mapValues, ih]
  rw [ofJson, hfields]

theorem bracketed_eq_joinWith {piece : α → List Char} (xs : List α) :
    Json.bracketed piece close xs = Text.joinWith [','] (xs.map piece) ++ [close] := by
  cases xs with
  | nil => rfl
  | cons x xs =>
    rw [Json.bracketed, List.append_left_inj]
    induction xs generalizing x with
    | nil => simp [Text.joinWith]
    | cons y ys ih => simpa [Text.joinWith] using ih y

theorem flatMap_singleton_eq_mapValues (fields : Entries Json) :
    (fields.flatMap fun field => [(field.1, ofJson field.2)]) = fields.mapValues ofJson :=
  List.map_eq_flatMap.symm

theorem reads_write {value : Json} (h : value.isProper = true) (depth : Nat) :
    Reads (value.write .compact depth) (ofJson value) := by
  have hblanks : ∀ c ∈ ([] : List Char), isBlank c = true := nofun
  induction value using Json.induction generalizing depth with
  | arr items ih =>
    rw [Json.isProper_arr_iff] at h
    rw [Json.write_arr, bracketed_eq_joinWith, ofJson_arr]
    exact reads_list hblanks fun x hx => ih x hx (h x hx) (depth + 1)
  | obj fields ih =>
    obtain ⟨hnodup, hproper⟩ := Json.isProper_obj_iff.mp h
    have hputs : ∀ field ∈ fields,
        Puts (Json.writeField .compact (depth + 1) field) [(field.1, ofJson field.2)] := by
      intro field hfield
      have hname :=
        (names_quote field.1.toList).puts hblanks
          (ih field hfield (hproper field hfield) (depth + 1))
      rwa [String.ofList_toList, List.nil_append, ← Json.writeField_compact] at hname
    have hobject := reads_object hblanks hputs
    rw [flatMap_singleton_eq_mapValues, Entries.putAll_eq_append (by simpa using hnodup),
      List.nil_append] at hobject
    rw [Json.write_obj, bracketed_eq_joinWith, ofJson_obj]
    exact hobject
  | str s => exact reads_quote s
  | _ => exact reads_write_of_isScalar rfl depth

theorem ofJson_of_isScalar {value : Json} (h : value.isScalar = true) :
    ofJson value = .word (value.write .compact 0) := by
  cases value <;> first | rfl | cases h

theorem eq_of_map_eq {β : Type} {f : α → β} {xs ys : List α}
    (h : ∀ x ∈ xs, ∀ y ∈ ys, f x = f y → x = y) (heq : xs.map f = ys.map f) : xs = ys := by
  induction xs generalizing ys with
  | nil => exact (List.map_eq_nil_iff.mp heq.symm).symm
  | cons x xs ih =>
    cases ys with
    | nil => cases heq
    | cons y ys =>
      obtain ⟨hx, hxs⟩ := List.cons.inj heq
      rw [h x List.mem_cons_self y List.mem_cons_self hx,
        ih (fun x hx y hy => h x (.tail _ hx) y (.tail _ hy)) hxs]

theorem isScalar_of_ofJson_eq {value other : Json} (h : value.isScalar = true)
    (heq : ofJson value = ofJson other) : other.isScalar = true := by
  rw [ofJson_of_isScalar h] at heq
  cases other <;> first | rfl | simp [ofJson] at heq

theorem ofJson_inj {value other : Json} (h : value.isProper = true) (h' : other.isProper = true)
    (heq : ofJson value = ofJson other) : value = other := by
  induction value using Json.induction generalizing other with
  | arr items ih =>
    cases other with
    | arr others =>
      rw [Json.isProper_arr_iff] at h h'
      rw [ofJson_arr, ofJson_arr] at heq
      rw [eq_of_map_eq (fun x hx y hy => ih x hx (h x hx) (h' y hy)) (Literal.list.inj heq)]
    | _ => simp [ofJson] at heq
  | obj fields ih =>
    cases other with
    | obj others =>
      rw [Json.isProper_obj_iff] at h h'
      rw [ofJson_obj, ofJson_obj] at heq
      rw [eq_of_map_eq (fun field hfield other hother hmapped => ?_) (Literal.object.inj heq)]
      obtain ⟨hname, hvalue⟩ := Prod.mk.inj hmapped
      exact Prod.ext hname (ih field hfield (h.2 field hfield) (h'.2 other hother) hvalue)
    | _ => simp [ofJson] at heq
  | str s =>
    cases other with
    | str s' => rw [Literal.text.inj heq]
    | _ => simp [ofJson] at heq
  | _ =>
    have hscalar := isScalar_of_ofJson_eq rfl heq
    rw [ofJson_of_isScalar rfl, ofJson_of_isScalar hscalar] at heq
    exact Json.eq_of_write_scalar rfl hscalar h h' (Literal.word.inj heq)

end Literal

def Json.follow : List String → Json → Option Json
  | [], value => some value
  | name :: path, .obj fields => (fields.lookup name).bind (Json.follow path)
  | _ :: _, _ => none

theorem Json.isProper_follow {value found : Json} {path : List String} (h : value.isProper = true)
    (hfollow : value.follow path = some found) : found.isProper = true := by
  induction path generalizing value with
  | nil => exact Option.some.inj hfollow ▸ h
  | cons name path ih =>
    cases value with
    | obj fields =>
      obtain ⟨next, hnext, hfollow⟩ := Option.bind_eq_some_iff.mp hfollow
      exact ih ((isProper_obj_iff.mp h).2 _ (Entries.mem_of_lookup hnext)) hfollow
    | _ => cases hfollow

def Literal.follow : List String → Literal → Option Literal
  | [], literal => some literal
  | name :: path, .object fields => (fields.lookup name).bind (Literal.follow path)
  | _ :: _, _ => none

theorem Literal.follow_ofJson (path : List String) (value : Json) :
    (ofJson value).follow path = (value.follow path).map ofJson := by
  induction path generalizing value with
  | nil => rfl
  | cons name path ih =>
    cases value with
    | obj fields =>
      rw [ofJson_obj, follow, Json.follow, Entries.lookup_mapValues]
      cases List.lookup name fields with
      | none => rfl
      | some value => exact ih value
    | _ => rfl

end Flowplan
