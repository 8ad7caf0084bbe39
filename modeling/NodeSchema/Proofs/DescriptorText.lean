import NodeSchema.Proofs.Cutting
import NodeSchema.Proofs.DescriptorReading
/-!
# The text of a descriptor

A text that is read as a descriptor is one piece of a field list: its brackets close, and no
comma of it stands outside them. Blanks at its ends do not matter, and a text that is read as
a bare name is that name between blanks.
-/

namespace NodeSchema.Descriptor

open Text (Blank isBlank skipBlanks trim Trimmed)
open FieldList (depthOver isOpener isCloser)

def Token.WellFormed : Token → Prop
  | .path text => IsPath text
  | .mark c => c ∈ ['<', '>', '(', ')', ',']

theorem Token.WellFormed.ne_nil {t : Token} (h : t.WellFormed) : t.spelling ≠ [] := by
  cases t with
  | path text => exact IsPath.ne_nil h
  | mark c => exact List.cons_ne_nil c []

theorem Token.WellFormed.not_blank {t : Token} (h : t.WellFormed) {c : Char}
    (hc : c ∈ t.spelling) : isBlank c = false := by
  cases t with
  | path text => exact isBlank_of_isPathPart (IsPath.isPathPart h hc)
  | mark m =>
    obtain rfl := List.mem_singleton.1 hc
    simp only [Token.WellFormed, List.mem_cons, List.not_mem_nil, or_false] at h
    rcases h with rfl | rfl | rfl | rfl | rfl <;> decide

mutual
theorem wellFormed_of_mem_tokens {t : Token} : (d : Descriptor) → d.WellFormed →
    t ∈ d.tokens → t.WellFormed
  | .name path, hw, ht => by
    obtain rfl := List.mem_singleton.1 ht
    exact hw
  | .generic head arguments, hw, ht => by
    simp only [tokens, List.mem_append, List.mem_cons, List.not_mem_nil, or_false] at ht
    rcases ht with ((rfl | rfl) | ht) | rfl
    · exact hw.1
    · simp [Token.WellFormed]
    · exact wellFormed_of_mem_listTokens arguments hw.2.2.2 ht
    · simp [Token.WellFormed]
  | .tuple elements, hw, ht => by
    simp only [tokens, List.mem_append, List.mem_cons, List.not_mem_nil, or_false] at ht
    rcases ht with (rfl | ht) | rfl
    · simp [Token.WellFormed]
    · exact wellFormed_of_mem_listTokens elements hw ht
    · simp [Token.WellFormed]
  | .optional inner, hw, ht => by
    simp only [tokens, List.mem_append, List.mem_cons, List.not_mem_nil, or_false] at ht
    rcases ht with ((rfl | rfl) | ht) | rfl
    · exact isPath_option
    · simp [Token.WellFormed]
    · exact wellFormed_of_mem_tokens inner hw ht
    · simp [Token.WellFormed]

theorem wellFormed_of_mem_listTokens {t : Token} : (ds : List Descriptor) → AllWellFormed ds →
    t ∈ listTokens ds → t.WellFormed
  | [], _, ht => by cases ht
  | [d], hw, ht => wellFormed_of_mem_tokens d hw.1 ht
  | d :: e :: ds, hw, ht => by
    simp only [listTokens, List.mem_append, List.mem_singleton] at ht
    rcases ht with (ht | rfl) | ht
    · exact wellFormed_of_mem_tokens d hw.1 ht
    · simp [Token.WellFormed]
    · exact wellFormed_of_mem_listTokens (e :: ds) hw.2 ht
end

-- ---------------------------------------------------------------------------
-- Tokens without blanks
-- ---------------------------------------------------------------------------

theorem spelling_generic (head : String) (arguments : List Descriptor) :
    (generic head arguments).tokens.flatMap Token.spelling =
      head.toList ++ '<' :: ((listTokens arguments).flatMap Token.spelling ++ ['>']) := by
  simp [tokens, Token.spelling]

theorem spelling_tuple (elements : List Descriptor) :
    (tuple elements).tokens.flatMap Token.spelling =
      '(' :: ((listTokens elements).flatMap Token.spelling ++ [')']) := by
  simp [tokens, Token.spelling]

theorem spelling_optional (inner : Descriptor) :
    (optional inner).tokens.flatMap Token.spelling =
      "Option".toList ++ '<' :: (inner.tokens.flatMap Token.spelling ++ ['>']) := by
  simp [tokens, Token.spelling]

theorem spelling_listTokens_cons_cons (d e : Descriptor) (ds : List Descriptor) :
    (listTokens (d :: e :: ds)).flatMap Token.spelling =
      d.tokens.flatMap Token.spelling ++ ([','] ++ (listTokens (e :: ds)).flatMap Token.spelling) := by
  simp [listTokens, Token.spelling]

-- ---------------------------------------------------------------------------
-- Brackets and commas
-- ---------------------------------------------------------------------------

/-- Blanks between tokens open and close nothing. -/
theorem Spells.depthOver_eq {ts : List Token} {s : List Char} (h : Spells ts s) {depth : Nat} :
    depthOver depth s = depthOver depth (ts.flatMap Token.spelling) := by
  induction h generalizing depth with
  | done hb => exact FieldList.depthOver_of_plain fun c hc => FieldList.plain_of_isBlank (hb c hc)
  | token hb _ ih =>
    rw [List.append_assoc, FieldList.depthOver_append, FieldList.depthOver_of_plain fun c hc =>
      FieldList.plain_of_isBlank (hb c hc), List.flatMap_cons]
    simp only [Option.bind_some, FieldList.depthOver_append, ih]

theorem depthOver_brackets {opener closer : Char} {s : List Char} {depth : Nat}
    (ho : isOpener opener = true) (hc : isCloser closer = true)
    (hs : depthOver (depth + 1) s = some (depth + 1)) :
    depthOver depth (opener :: (s ++ [closer])) = some depth := by
  have hopen : depthOver depth [opener] = some (depth + 1) := by
    have hcomma : opener ≠ ',' := by rintro rfl; cases ho
    simp [depthOver, FieldList.depthAfter, ho, hcomma]
  have hclose : depthOver (depth + 1) [closer] = some depth := by
    have hcomma : closer ≠ ',' := by rintro rfl; cases hc
    have hno : isOpener closer = false := by
      rw [Bool.eq_false_iff]
      intro h
      rw [FieldList.isCloser_of_isOpener h] at hc
      cases hc
    simp [depthOver, FieldList.depthAfter, hc, hno]
  rw [← List.singleton_append, FieldList.depthOver_append, hopen, Option.bind_some,
    FieldList.depthOver_append, hs, Option.bind_some, hclose]

theorem depthOver_path {path : List Char} (h : IsPath path) {depth : Nat} :
    depthOver depth path = some depth :=
  FieldList.depthOver_of_plain fun _ hc => FieldList.plain_of_isPathPart (h.isPathPart hc)

theorem depthOver_arguments {head s : List Char} {depth : Nat} (hhead : IsPath head)
    (hs : depthOver (depth + 1) s = some (depth + 1)) :
    depthOver depth (head ++ '<' :: (s ++ ['>'])) = some depth := by
  rw [FieldList.depthOver_append, depthOver_path hhead, Option.bind_some]
  exact depthOver_brackets rfl rfl hs

mutual
theorem depthOver_tokens {depth : Nat} : (d : Descriptor) → d.WellFormed →
    depthOver depth (d.tokens.flatMap Token.spelling) = some depth
  | .name path, hw => by
    simpa [tokens, Token.spelling] using depthOver_path hw
  | .generic head arguments, hw => by
    rw [spelling_generic]
    exact depthOver_arguments hw.1 (depthOver_listTokens arguments hw.2.2.2)
  | .tuple elements, hw => by
    rw [spelling_tuple]
    exact depthOver_brackets rfl rfl (depthOver_listTokens elements hw)
  | .optional inner, hw => by
    rw [spelling_optional]
    exact depthOver_arguments isPath_option (depthOver_tokens inner hw)

theorem depthOver_listTokens {depth : Nat} : (ds : List Descriptor) → AllWellFormed ds →
    depthOver (depth + 1) ((listTokens ds).flatMap Token.spelling) = some (depth + 1)
  | [], _ => rfl
  | [d], hw => depthOver_tokens d hw.1
  | d :: e :: ds, hw => by
    have hcomma : depthOver (depth + 1) [','] = some (depth + 1) := by simp [depthOver]
    rw [spelling_listTokens_cons_cons, FieldList.depthOver_append, depthOver_tokens d hw.1, Option.bind_some,
      FieldList.depthOver_append, hcomma, Option.bind_some, depthOver_listTokens (e :: ds) hw.2]
end

/-- The text of a descriptor is one piece of a field list, at any depth. -/
theorem depthOver_of_read {s : List Char} {d : Descriptor} (h : read s = .ok d) {depth : Nat} :
    depthOver depth s = some depth := by
  obtain ⟨hw, hspells⟩ := spells_of_read h
  rw [hspells.depthOver_eq, depthOver_tokens d hw]

-- ---------------------------------------------------------------------------
-- Blanks at the ends
-- ---------------------------------------------------------------------------

theorem skipBlanks_append_of_head {s t : List Char}
    (ht : ∀ c, t.head? = some c → isBlank c = false) :
    skipBlanks (s ++ t) = skipBlanks s ++ t := by
  have hskip : skipBlanks t = t := by simpa using Text.skipBlanks_append .nil ht
  rw [skipBlanks, List.dropWhile_append]
  split
  · next h =>
    rw [List.isEmpty_iff] at h
    rw [skipBlanks, h]
    exact hskip
  · rfl

theorem Spells.skipBlanks {ts : List Token} {s : List Char} (h : Spells ts s)
    (hts : ∀ t ∈ ts, t.WellFormed) : Spells ts (skipBlanks s) := by
  cases h with
  | done hb =>
    rw [skipBlanks_eq_nil_iff.2 hb]
    exact .done .nil
  | @token t ts blanks rest hb h =>
    have ht := hts t List.mem_cons_self
    rw [List.append_assoc, Text.skipBlanks_append hb]
    · exact .token .nil h
    · intro c hc
      rw [List.head?_append_of_ne_nil _ ht.ne_nil] at hc
      exact ht.not_blank (List.mem_of_mem_head? hc)

theorem Spells.skipBlanks_reverse {ts : List Token} {s : List Char} (h : Spells ts s)
    (hts : ∀ t ∈ ts, t.WellFormed) : Spells ts (Text.skipBlanks s.reverse).reverse := by
  induction h with
  | done hb =>
    rw [skipBlanks_eq_nil_iff.2 hb.reverse]
    exact .done .nil
  | @token t ts blanks rest hb _ ih =>
    have ht := hts t List.mem_cons_self
    rw [List.reverse_append, skipBlanks_append_of_head, List.reverse_append, List.reverse_reverse]
    · exact .token hb (ih fun u hu => hts u (List.mem_cons_of_mem t hu))
    · intro c hc
      rw [List.head?_reverse, List.getLast?_append_of_ne_nil _ ht.ne_nil] at hc
      exact ht.not_blank (List.mem_of_getLast? hc)

/-- Whether a text is read does not depend on the blanks at its ends. -/
theorem read_trim {s : List Char} {d : Descriptor} :
    read (trim s) = .ok d ↔ read s = .ok d := by
  constructor
  · intro h
    obtain ⟨hw, hspells⟩ := spells_of_read h
    obtain ⟨-, before, after, hb, ha, hs⟩ := Text.trim_eq_iff.1 (rfl : trim s = trim s)
    rw [hs]
    exact read_of_spells hw ((hspells.blank_append hb).append_blank ha)
  · intro h
    obtain ⟨hw, hspells⟩ := spells_of_read h
    have htokens : ∀ t ∈ d.tokens, t.WellFormed := fun t ht => wellFormed_of_mem_tokens d hw ht
    exact read_of_spells hw ((hspells.skipBlanks htokens).skipBlanks_reverse htokens)

theorem IsPath.trimmed {path : List Char} (h : IsPath path) : Trimmed path :=
  ⟨fun _ hc => isBlank_of_isPathPart (h.isPathPart (List.mem_of_mem_head? hc)),
    fun _ hc => isBlank_of_isPathPart (h.isPathPart (List.mem_of_getLast? hc))⟩

/-- Only the name itself is read as a bare name. -/
theorem read_name_iff {s : List Char} {path : String} :
    read s = .ok (.name path) ↔ IsPath path.toList ∧ trim s = path.toList := by
  constructor
  · intro h
    obtain ⟨hw, hspells⟩ := spells_of_read h
    obtain ⟨rest, hleads, hrest⟩ := spells_iff_leads.1 hspells
    obtain ⟨blanks, hb, rfl⟩ := leads_singleton.1 hleads
    exact ⟨hw, Text.trim_eq_iff.2 ⟨IsPath.trimmed hw, blanks, rest, hb, hrest, rfl⟩⟩
  · rintro ⟨hw, h⟩
    have hspells : Spells (name path).tokens ([] ++ path.toList ++ []) := .token .nil (.done .nil)
    rw [← read_trim, h]
    exact read_of_spells hw (by simpa using hspells)

theorem not_blank_of_read {s : List Char} {d : Descriptor} (h : read s = .ok d) : ¬ Blank s := by
  obtain ⟨hw, hspells⟩ := spells_of_read h
  obtain ⟨rest, hleads, -⟩ := spells_iff_leads.1 hspells
  rw [← List.append_nil d.tokens] at hleads
  obtain ⟨c, hc, -⟩ := head?_of_leads hw hleads
  intro hb
  rw [skipBlanks_eq_nil_iff.2 hb] at hc
  cases hc

-- ---------------------------------------------------------------------------
-- Lists of descriptors
-- ---------------------------------------------------------------------------

/-- Brackets at the two ends of a text are the first and the last token. -/
theorem spells_brackets {ts : List Token} {opener closer : Char} {s : List Char}
    (ho : isBlank opener = false) (hc : isBlank closer = false) :
    Spells ([.mark opener] ++ ts ++ [.mark closer]) (opener :: (s ++ [closer])) ↔ Spells ts s := by
  constructor
  · intro h
    obtain ⟨front, back, hs, hfront, hback⟩ := spells_append_mark.1 h
    replace hback := spells_nil.1 hback
    -- Nothing but blanks stands before the first bracket and after the last one.
    obtain rfl : back = [] := by
      rcases List.eq_nil_or_concat back with rfl | ⟨back, c, rfl⟩
      · rfl
      · have hlast := congrArg List.getLast? hs
        have hblank := hback c (by simp)
        obtain rfl : closer = c := by simpa [List.getLast?_cons, List.getLast?_append] using hlast
        rw [hc] at hblank
        cases hblank
    obtain rfl : opener :: s = front := List.append_cancel_right hs
    obtain ⟨before, inside, hinside, hbefore, hspells⟩ :=
      spells_append_mark.1 (show Spells ([] ++ .mark opener :: ts) (opener :: s) from hfront)
    replace hbefore := spells_nil.1 hbefore
    cases before with
    | nil =>
      obtain rfl : s = inside := (List.cons.inj hinside).2
      exact hspells
    | cons c before =>
      obtain rfl : opener = c := (List.cons.inj hinside).1
      rw [hbefore opener List.mem_cons_self] at ho
      cases ho
  · intro h
    exact spells_append_mark.2 ⟨opener :: s, [], by simp, .token .nil h, .done .nil⟩

/-- Several descriptors are read from a text exactly if each is read from its piece. -/
theorem spells_listTokens_iff_read {ds : List Descriptor} {s : List Char} (hne : ds ≠ []) :
    AllWellFormed ds ∧ Spells (listTokens ds) s ↔
      ∃ pieces, List.Forall₂ (fun d piece => read piece = .ok d) ds pieces ∧
        s = [','].intercalate pieces := by
  rw [spells_listTokens hne, allWellFormed_iff]
  constructor
  · rintro ⟨hw, pieces, hall, rfl⟩
    have hboth := (List.forall₂_and_left ds pieces).2 ⟨hw, hall⟩
    exact ⟨pieces, hboth.imp fun d piece h => read_of_spells h.1 h.2, rfl⟩
  · rintro ⟨pieces, hall, rfl⟩
    have hboth := hall.imp fun d piece h => spells_of_read h
    obtain ⟨hw, hspells⟩ := (List.forall₂_and_left ds pieces).1 hboth
    exact ⟨hw, pieces, hspells, rfl⟩

end NodeSchema.Descriptor
