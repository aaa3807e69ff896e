import Flowplan.Plan.Params
import Flowplan.Proofs.Graph.Document
import Flowplan.Proofs.Plan.Resolution

namespace Flowplan

namespace Expression

open Params Reference

def IsIdentifier : List Char → Prop
  | [] => False
  | c :: more => isIdentifierStart c = true ∧ more.all isIdentifierChar = true

instance : DecidablePred IsIdentifier
  | [] => .isFalse id
  | c :: more =>
    inferInstanceAs (Decidable (isIdentifierStart c = true ∧ more.all isIdentifierChar = true))

/-- Accesses one after another, each of which may skip an absent object. -/
inductive Accesses : List Char → Prop
  | nil : Accesses []
  | dot {name rest} : IsIdentifier name → Accesses rest → Accesses ('.' :: (name ++ rest))
  | optional {name rest} : IsIdentifier name → Accesses rest →
      Accesses ('?' :: '.' :: (name ++ rest))

def IsMemberAccess (expr : String) : Prop :=
  ∃ rest, (expr.toList = flowInput ++ rest ∨ expr.toList = results ++ rest) ∧ Accesses rest

variable {name text rest segment : List Char} {segments : List (List Char)}

theorem IsIdentifier.all (h : IsIdentifier name) : ∀ c ∈ name, isIdentifierChar c = true := by
  cases name with
  | nil => exact h.elim
  | cons c more =>
    exact List.forall_mem_cons.mpr ⟨by simp [isIdentifierChar, h.1], List.all_eq_true.mp h.2⟩

theorem accesses_question_iff : Accesses ('?' :: text) ↔ ['.'] <+: text ∧ Accesses text := by
  constructor
  · rintro (_ | _ | ⟨hname, hrest⟩)
    exact ⟨by simp, .dot hname hrest⟩
  · rintro ⟨hdot, h⟩
    obtain ⟨more, rfl⟩ : ∃ more, text = '.' :: more := hdot.imp fun _ => Eq.symm
    cases h with
    | dot hname hrest => exact .optional hname hrest

theorem Accesses.head {c : Char} (h : Accesses (c :: text)) : c = '.' ∨ c = '?' := by
  cases h with
  | dot => exact .inl rfl
  | optional => exact .inr rfl

/-- How a segment without dots is read: as the name, or as the name and the start of an access that
may skip. -/
theorem accesses_segment_iff (hdot : '.' ∉ segment)
    (hrest : ∀ c ∈ rest.head?, isIdentifierChar c = false) :
    Accesses ('.' :: (segment ++ rest)) ↔ Accesses rest ∧
      (IsIdentifier segment ∨ ['.'] <+: rest ∧ ∃ name, segment = name ++ ['?'] ∧
        IsIdentifier name) := by
  constructor
  · intro h
    generalize htext : '.' :: (segment ++ rest) = text at h
    cases h with
    | nil => cases htext
    | optional => cases htext
    | @dot name after hname hafter =>
      rcases List.append_eq_append_iff.mp (List.cons.inj htext).2 with
        ⟨more, rfl, rfl⟩ | ⟨more, rfl, rfl⟩
      · -- the name cannot go on after the segment
        cases more with
        | nil => simpa using ⟨hafter, .inl (by simpa using hname)⟩
        | cons c more =>
          have hc := hname.all c (by simp)
          simp [hrest c rfl] at hc
      · cases more with
        | nil => simpa using ⟨hafter, .inl (by simpa using hname)⟩
        | cons c more =>
          obtain ⟨hc, hmore⟩ : '.' ≠ c ∧ '.' ∉ more := by simp_all
          obtain rfl := hafter.head.resolve_left (Ne.symm hc)
          obtain ⟨hskips, hafter⟩ := accesses_question_iff.mp hafter
          cases more with
          | nil => exact ⟨hafter, .inr ⟨hskips, name, rfl, hname⟩⟩
          | cons d more => simp_all
  · rintro ⟨hafter, hname | ⟨hskips, name, rfl, hname⟩⟩
    · exact .dot hname hafter
    · rw [List.append_assoc]
      exact .dot hname (accesses_question_iff.mpr ⟨hskips, hafter⟩)

theorem accesses_name_iff (hdot : '.' ∉ segment)
    (hrest : ∀ c ∈ rest.head?, isIdentifierChar c = false)
    (hskips : '?' ∈ segment → ¬ ['.'] <+: rest) :
    Accesses ('.' :: (segment ++ rest)) ↔ IsIdentifier segment ∧ Accesses rest := by
  have hname : ¬ (['.'] <+: rest ∧ ∃ name, segment = name ++ ['?'] ∧ IsIdentifier name) := by
    rintro ⟨hdots, name, rfl, _⟩
    exact hskips (by simp) hdots
  rw [accesses_segment_iff hdot hrest, or_iff_left hname, and_comm]

/-- Segments that are read as accesses, though all but the last may end in a question mark. -/
def AreFields (segments : List (List Char)) : Prop :=
  (∀ segment ∈ segments.dropLast, IsIdentifier segment ∨ ∃ name, segment = name ++ ['?'] ∧
    IsIdentifier name) ∧
    ∀ segment ∈ segments.getLast?, IsIdentifier segment

theorem accesses_dots_iff (hdots : ∀ segment ∈ segments, '.' ∉ segment) :
    Accesses (segments.flatMap ('.' :: ·)) ↔ AreFields segments := by
  induction segments with
  | nil => simp [AreFields, Accesses.nil]
  | cons segment segments ih =>
    obtain ⟨hdot, hdots⟩ := List.forall_mem_cons.mp hdots
    cases segments with
    | nil =>
      have hone : Accesses ('.' :: (segment ++ [])) ↔ _ := accesses_segment_iff hdot (by simp)
      simpa [AreFields, Accesses.nil] using hone
    | cons next segments =>
      have hrest : ∀ c ∈ ((next :: segments).flatMap ('.' :: ·)).head?, isIdentifierChar c =
          false := by simp; decide
      have hskips : ['.'] <+: (next :: segments).flatMap ('.' :: ·) := by simp
      rw [List.flatMap_cons, List.cons_append, accesses_segment_iff hdot hrest, ih hdots,
        and_iff_right hskips]
      simp only [AreFields, List.dropLast_cons_cons, List.getLast?_cons_cons, List.forall_mem_cons]
      tauto

theorem stops_skips (segments : List (List Char)) :
    let skips := segments.flatMap fun segment => '?' :: '.' :: segment
    (∀ c ∈ skips.head?, isIdentifierChar c = false) ∧ ¬ ['.'] <+: skips := by
  cases segments with
  | nil => simp
  | cons segment segments => simp; decide

theorem accesses_skips_iff (hdots : ∀ segment ∈ segments, '.' ∉ segment) :
    Accesses (segments.flatMap fun segment => '?' :: '.' :: segment) ↔
      ∀ segment ∈ segments, IsIdentifier segment := by
  induction segments with
  | nil => simp [Accesses.nil]
  | cons segment segments ih =>
    obtain ⟨hdot, hdots⟩ := List.forall_mem_cons.mp hdots
    obtain ⟨hstops, hnext⟩ := stops_skips segments
    rw [List.flatMap_cons, List.cons_append, accesses_question_iff, List.cons_append,
      and_iff_right (by simp), accesses_name_iff hdot hstops fun _ => hnext, ih hdots,
      List.forall_mem_cons]

theorem stops_accesses (segments : List (List Char)) :
    ∀ c ∈ (accesses segments).head?, isIdentifierChar c = false := by
  cases segments with
  | nil => simp [accesses]
  | cons segment segments => simp [accesses]; decide

theorem accesses_accesses_iff (hdots : ∀ segment ∈ segments, '.' ∉ segment) :
    Accesses (accesses segments) ↔ ∀ segment ∈ segments, IsIdentifier segment := by
  cases segments with
  | nil => simp [accesses, Accesses.nil]
  | cons segment segments =>
    obtain ⟨hdot, hdots⟩ := List.forall_mem_cons.mp hdots
    obtain ⟨hstops, hnext⟩ := stops_skips segments
    rw [accesses, List.cons_append, accesses_name_iff hdot hstops fun _ => hnext,
      accesses_skips_iff hdots, List.forall_mem_cons]

theorem isAlpha_of_isDigit {c : Char} (h : c.isDigit = true) : c.isAlpha = false := by
  change (decide (65 ≤ c.val ∧ c.val ≤ 90) || (decide (97 ≤ c.val) && decide (c.val ≤ 122))) = false
  simp only [Char.isDigit, Bool.and_eq_true, Bool.or_eq_false_iff, Bool.and_eq_false_iff,
    decide_eq_true_eq, decide_eq_false_iff_not, UInt32.le_iff_toNat_le] at h ⊢
  simp at h ⊢
  omega

theorem isIdentifierStart_of_isDigit {c : Char} (h : c.isDigit = true) :
    isIdentifierStart c = false := by
  have hline : c ≠ '_' := by rintro rfl; cases h
  have hdollar : c ≠ '$' := by rintro rfl; cases h
  simp [isIdentifierStart, isAlpha_of_isDigit h, hline, hdollar]

theorem isIdentifierChar_idChar (c : Char) : isIdentifierChar (ModuleId.idChar c) = true := by
  cases h : ModuleId.isIdChar c with
  | true =>
    rw [ModuleId.idChar, h, if_pos rfl]
    simp only [ModuleId.isIdChar, Char.isAlphanum, Bool.or_eq_true] at h
    simp only [isIdentifierChar, isIdentifierStart, Bool.or_eq_true]
    tauto
  | false => rw [ModuleId.idChar, h]; rfl

theorem isIdentifierStart_idChar (c : Char) : isIdentifierStart (ModuleId.idChar c) =
    !c.isDigit := by
  have hchar := isIdentifierChar_idChar c
  cases hdigit : c.isDigit with
  | true =>
    have hid : ModuleId.isIdChar c = true := by simp [ModuleId.isIdChar, Char.isAlphanum, hdigit]
    rw [ModuleId.idChar, hid, if_pos rfl, isIdentifierStart_of_isDigit hdigit]
    rfl
  | false =>
    have hother : (ModuleId.idChar c).isDigit = false := by
      rw [ModuleId.idChar]
      split
      · exact hdigit
      · rfl
    simpa [isIdentifierChar, hother] using hchar

theorem isIdentifier_ofChars_iff (id : List Char) :
    IsIdentifier (ModuleId.ofChars id) ↔ id ≠ [] ∧ id.head?.any Char.isDigit = false := by
  cases id with
  | nil => simp [ModuleId.ofChars, IsIdentifier]
  | cons c id =>
    simp [ModuleId.ofChars, IsIdentifier, isIdentifierStart_idChar, isIdentifierChar_idChar]

theorem isMemberAccess_flowInput {expr : String} (h : expr.toList = flowInput ++ rest) :
    IsMemberAccess expr ↔ Accesses rest := by
  constructor
  · rintro ⟨other, hother | hother, haccesses⟩
    · rwa [List.append_cancel_left (h.symm.trans hother)]
    · cases h.symm.trans hother
  · exact fun haccesses => ⟨rest, .inl h, haccesses⟩

theorem isMemberAccess_results {expr : String} (h : expr.toList = results ++ rest) :
    IsMemberAccess expr ↔ Accesses rest := by
  constructor
  · rintro ⟨other, hother | hother, haccesses⟩
    · cases h.symm.trans hother
    · rwa [List.append_cancel_left (h.symm.trans hother)]
  · exact fun haccesses => ⟨rest, .inr h, haccesses⟩

def fields (text : String) : List (List Char) := (Text.segments '.' (Reference.path text)).tail

theorem toList_target (text : String) :
    (target text).toList = (Text.cut '.' (Reference.path text)).1 := String.toList_ofList

theorem toList_target_eq_iff (text : String) :
    (target text).toList = flowInput ↔ target text = "flow_input" := by
  rw [← String.toList_inj]
  rfl

theorem dot_notMem_of_mem_fields {text : String} (h : segment ∈ fields text) : '.' ∉ segment :=
  Text.notMem_of_mem_segments (List.mem_of_mem_tail h)

theorem segments_path (text : String) :
    Text.segments '.' (Reference.path text) = (target text).toList :: fields text := by
  obtain ⟨rest, hsegments⟩ := Text.segments_eq_cons '.' (Reference.path text)
  rw [fields, hsegments, toList_target, List.tail_cons]

theorem path_eq (text : String) :
    Reference.path text = (target text).toList ++ (fields text).flatMap ('.' :: ·) := by
  rw [← Text.joinWith_singleton_cons, ← segments_path, Text.joinWith_segments]

theorem isMemberAccess_of_flowInput {text : String} (h : target text = "flow_input") :
    IsMemberAccess (ofReference text) ↔ AreFields (fields text) := by
  have hinput : (target text).toList = flowInput := (toList_target_eq_iff text).mpr h
  have hexpr : (ofReference text).toList = flowInput ++ (fields text).flatMap ('.' :: ·) := by
    rw [ofReference, String.toList_ofList, ofPath_flowInput (by rw [← toList_target, hinput]),
      path_eq, hinput]
  rw [isMemberAccess_flowInput hexpr, accesses_dots_iff fun _ => dot_notMem_of_mem_fields]

theorem isMemberAccess_of_step {text : String} (hstep : target text ≠ "flow_input")
    (hne : target text ≠ "") : IsMemberAccess (ofReference text) ↔
      (target text).toList.head?.any Char.isDigit = false ∧ ∀ segment ∈ fields text,
      IsIdentifier segment := by
  have hinput : (Text.cut '.' (Reference.path text)).1 ≠ flowInput := by
    rwa [← toList_target, ne_eq, toList_target_eq_iff]
  have hchars : (target text).toList ≠ [] := by rwa [ne_eq, String.toList_eq_nil_iff]
  have hexpr : (ofReference text).toList =
      results ++ '.' :: (ModuleId.ofChars (target text).toList ++
      accesses ((fields text).filter (· != "output".toList))) := by
    rw [ofReference, String.toList_ofList, ofPath, if_neg (mt cut_eq_flowInput_iff.mpr hinput),
      segments_path]
    simp
  have hdots : ∀ segment ∈ (fields text).filter (· != "output".toList), '.' ∉ segment :=
    fun _ h => dot_notMem_of_mem_fields (List.mem_of_mem_filter h)
  have houtput : IsIdentifier "output".toList := by decide
  have hquestion : '?' ∉ ModuleId.ofChars (target text).toList := by
    intro h
    obtain ⟨c, _, hc⟩ := List.mem_map.mp h
    cases hc ▸ isIdentifierChar_idChar c
  rw [isMemberAccess_results hexpr, accesses_name_iff (ModuleId.dot_notMem_ofChars _)
    (stops_accesses _)
    fun h => absurd h hquestion, isIdentifier_ofChars_iff, and_iff_right hchars,
    accesses_accesses_iff hdots]
  refine and_congr_right fun _ => ?_
  simp only [List.mem_filter, bne_iff_ne, and_imp]
  refine forall₂_congr fun segment _ => ⟨fun h => ?_, fun h _ => h⟩
  by_cases hname : segment = "output".toList
  · exact hname ▸ houtput
  · exact h hname

end Expression

namespace Graph

open Expression Reference

variable {registry : Registry} {document : Json} {graph : Graph} {node : Node} {input text : String}

theorem target_ne_empty (hread : Graph.read document = .good graph)
    (hvalid : graph.isValid registry = true) (hnode : node ∈ graph.nodes)
    (hinput : (input, Json.str text) ∈ node.inputs) (hmark : mark <+: text.toList) :
    target text ≠ "" := by
  intro hempty
  have hnames : Reference.Names text "" := (target_eq_iff hmark).mp hempty
  by_cases hflow : mark ++ flowInput <+: text.toList
  · obtain ⟨rest, htext, -, hrest⟩ := hnames
    rw [htext, List.append_assoc, List.prefix_append_right_inj] at hflow
    obtain rfl | ⟨more, rfl⟩ := hrest
    · cases List.prefix_nil.mp hflow
    · cases (List.cons_prefix_cons.mp hflow).1
  · obtain ⟨_, _, _, _, hreferences, _⟩ := isValid_iff_checks.mp hvalid
    have hid :=
      brokenReferences_eq_nil_iff.mp (hreferences node hnode) input text _ hinput hnames hflow
    obtain ⟨other, hother, hid⟩ := List.mem_map.mp hid
    exact id_ne_empty_of_read hread hother hid

/-- Which references of a valid graph compile to accesses: what an author wrote after the target
stands in the expression as it is, and a digit at the start of an id as well. -/
theorem isMemberAccess_ofReference_iff (hread : Graph.read document = .good graph)
    (hvalid : graph.isValid registry = true) (hnode : node ∈ graph.nodes)
    (hinput : (input, Json.str text) ∈ node.inputs) (hmark : mark <+: text.toList) :
    IsMemberAccess (ofReference text) ↔
      if target text = "flow_input" then AreFields (fields text)
      else (target text).toList.head?.any Char.isDigit = false ∧ ∀ segment ∈ fields text,
      IsIdentifier segment := by
  split
  case isTrue h => exact isMemberAccess_of_flowInput h
  case isFalse h => exact isMemberAccess_of_step h (target_ne_empty hread hvalid hnode hinput hmark)

def nestedReference : Graph where
  nodes := [⟨"fetch-lead", "http.call", [], [], none⟩,
    ⟨"send", "http.call", [], [("to", .str "$ref:fetch-lead.output.lead.email")], none⟩]
  edges := [⟨"fetch-lead", "send", none⟩]
  onError := none

theorem isMemberAccess_nestedReference :
    Graph.read nestedReference.write = .good nestedReference ∧
      nestedReference.isValid .builtIn = true ∧
      ofReference "$ref:fetch-lead.output.lead.email" = "results.fetch_lead.lead?.email" ∧
      IsMemberAccess (ofReference "$ref:fetch-lead.output.lead.email") := by
  have hread : Graph.read nestedReference.write = .good nestedReference := rfl
  have hvalid : nestedReference.isValid .builtIn = true := by decide
  have haccess := @isMemberAccess_ofReference_iff .builtIn nestedReference.write nestedReference
    nestedReference.nodes[1] "to" "$ref:fetch-lead.output.lead.email" hread hvalid (by decide)
      (by decide) (by decide)
  rw [if_neg (by decide)] at haccess
  exact ⟨hread, hvalid, by decide, haccess.mpr (by decide)⟩

/-- References to a field with a dash, to an element of a list and to
a step whose id begins with a digit. -/
def verbatim : Graph where
  nodes := [⟨"fetch", "http.call", [], [], none⟩, ⟨"2nd", "http.call", [], [], none⟩,
    ⟨"send", "http.call", [], [("name", .str "$ref:fetch.output.first-name"),
      ("to", .str "$ref:fetch.output.items.0.email"), ("city", .str "$ref:2nd.output.city")], none⟩]
  edges := [⟨"fetch", "2nd", none⟩, ⟨"2nd", "send", none⟩]
  onError := none

theorem not_isMemberAccess_verbatim :
    Graph.read verbatim.write = .good verbatim ∧ verbatim.isValid .builtIn = true ∧
    ∀ text ∈ ["$ref:fetch.output.first-name", "$ref:fetch.output.items.0.email",
      "$ref:2nd.output.city"], (∃ node ∈ verbatim.nodes, ∃ entry ∈ node.inputs, entry.2 =
        .str text) ∧ mark <+: text.toList ∧
        ¬ IsMemberAccess (ofReference text) := by
  refine ⟨rfl, by decide, ?_⟩
  simp only [List.forall_mem_cons, List.not_mem_nil, false_imp_iff, forall_const, and_true]
  refine ⟨⟨by decide, by decide, ?dash⟩,
    ⟨by decide, by decide, ?index⟩, by decide, by decide, ?digit⟩ <;>
    (rw [isMemberAccess_of_step] <;> decide)

end Graph

end Flowplan
