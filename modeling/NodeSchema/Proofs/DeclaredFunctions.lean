import NodeSchema.Proofs.DeclarationDecoding
/-!
# The functions that a declaration writes

The functions of a text are read off it as the identifiers behind each `pub fn `, wherever that
stands. In the text of a declaration these are the names of its constructor functions, one for
each variant and in their order, if these functions are written, and none otherwise. No descriptor
has two words with a space between them, and nothing else that stands around the names has the two
words of the mark.
-/

namespace NodeSchema

open Text (isIdentifierPart isIdentifier Blank)

-- ---------------------------------------------------------------------------
-- Identifiers behind a mark
-- ---------------------------------------------------------------------------

namespace Text

def functionMark : List Char := ['p', 'u', 'b', ' ', 'f', 'n', ' ']

/-- The identifiers behind each mark of a function, in their order. -/
def functionNames : List Char → List String
  | [] => []
  | c :: s =>
    if functionMark <+: c :: s then
      String.ofList (((c :: s).drop functionMark.length).takeWhile isIdentifierPart) ::
        functionNames s
    else functionNames s

example : functionNames "fn a(); pub fn b_0(_: A); pub fn c()".toList = ["b_0", "c"] := by
  decide +kernel

section
variable {s t : List Char} {c : Char}

theorem functionNames_cons_of_ne (hc : c ≠ 'p') : functionNames (c :: s) = functionNames s := by
  rw [functionNames, if_neg]
  intro h
  exact hc (List.cons_prefix_cons.1 h).1.symm

theorem functionNames_append_of_not_mem (hs : 'p' ∉ s) :
    functionNames (s ++ t) = functionNames t := by
  induction s with
  | nil => rfl
  | cons d s ih =>
    rw [List.mem_cons, not_or] at hs
    rw [List.cons_append, functionNames_cons_of_ne (Ne.symm hs.1), ih hs.2]

theorem functionNames_eq_nil (h : ¬ functionMark <:+: s) : functionNames s = [] := by
  induction s with
  | nil => rfl
  | cons d s ih =>
    rw [functionNames, if_neg fun hd => h hd.isInfix, ih fun hs => h (List.infix_cons hs)]

/-- The mark has a space and an `f` behind it. -/
theorem functionNames_append_eq_nil (hs : ' ' ∉ s) (ht : 'f' ∉ t) : functionNames (s ++ t) = [] := by
  refine functionNames_eq_nil ?_
  rintro ⟨a, b, h⟩
  have hmark : s ++ t = (a ++ "pub".toList) ++ ' ' :: ("fn ".toList ++ b) := by
    rw [← h]
    simp [functionMark]
  rcases List.append_eq_append_iff.1 hmark with ⟨u, -, rfl⟩ | ⟨u, rfl, hu⟩
  · exact ht (by simp)
  · cases u with
    | nil =>
      rw [List.nil_append] at hu
      exact ht (by simp [← hu])
    | cons e u =>
      obtain rfl : ' ' = e := (List.cons.inj hu).1
      exact hs (by simp)

theorem functionNames_of_isIdentifier (hs : isIdentifier s = true) : functionNames s = [] := by
  have hspace : ' ' ∉ s := fun hc => absurd (isIdentifierPart_of_mem hs hc) (by decide)
  simpa using functionNames_append_eq_nil (t := []) hspace (by simp)

theorem functionNames_of_blank (hs : Blank s) : functionNames s = [] :=
  functionNames_append_eq_nil (s := []) (by simp) fun hf => absurd (hs 'f' hf) (by decide)

theorem prefix_of_prefix_append_cons {l : List Char} (hc : c ∉ l) (h : l <+: s ++ c :: t) :
    l <+: s := by
  have hfront : s ++ [c] <+: s ++ c :: t := ⟨t, by simp⟩
  rcases List.prefix_or_prefix_of_prefix h hfront with h | h
  · rcases List.prefix_concat_iff.1 h with rfl | h
    · simp at hc
    · exact h
  · exact absurd (h.subset (by simp)) hc

theorem takeWhile_append_cons {p : Char → Bool} (hc : p c = false) :
    (s ++ c :: t).takeWhile p = s.takeWhile p := by
  induction s with
  | nil => simp [hc]
  | cons d s ih => simp [List.takeWhile_cons, ih]

/-- A character that is neither in the mark nor in an identifier splits the text. -/
theorem functionNames_append_cons (hc : c ∉ functionMark ∧ isIdentifierPart c = false) :
    functionNames (s ++ c :: t) = functionNames s ++ functionNames t := by
  induction s with
  | nil =>
    rw [List.nil_append, functionNames_cons_of_ne, functionNames, List.nil_append]
    rintro rfl
    exact hc.1 (by decide)
  | cons d s ih =>
    rw [List.cons_append, functionNames, functionNames, ih]
    by_cases h : functionMark <+: d :: s
    · obtain ⟨rest, hrest⟩ := h
      have hmark : functionMark ++ (rest ++ c :: t) = d :: (s ++ c :: t) := by
        rw [← List.append_assoc, hrest, List.cons_append]
      rw [← hrest, ← hmark, if_pos (List.prefix_append _ _), if_pos (List.prefix_append _ _),
        List.drop_left, List.drop_left, takeWhile_append_cons hc.2, List.cons_append]
    · rw [if_neg h, if_neg]
      rw [← List.cons_append]
      exact fun hd => h (prefix_of_prefix_append_cons hc.1 hd)

theorem functionNames_append_cons_of_eq_nil (hs : functionNames s = [])
    (hc : c ∉ functionMark ∧ isIdentifierPart c = false) :
    functionNames (s ++ c :: t) = functionNames t := by
  rw [functionNames_append_cons hc, hs, List.nil_append]

theorem functionNames_mark_append {name : List Char} (hname : isIdentifier name = true) :
    functionNames (functionMark ++ name) = [String.ofList name] := by
  have hmark : functionMark ++ name = 'p' :: ("ub fn ".toList ++ name) := by
    simp [functionMark]
  have htake : name.takeWhile isIdentifierPart = name := by
    rw [List.takeWhile_eq_self_iff]
    exact fun c => isIdentifierPart_of_mem hname
  rw [hmark, functionNames, ← hmark, if_pos (List.prefix_append _ _), List.drop_left, htake,
    functionNames_append_of_not_mem (by decide), functionNames_of_isIdentifier hname]

theorem functionNames_flatMap {α : Type} {write : α → List Char} {names : α → List String}
    {as : List α} (h : ∀ a ∈ as, ∀ t, functionNames (write a ++ t) = names a ++ functionNames t) :
    functionNames (as.flatMap write ++ t) = as.flatMap names ++ functionNames t := by
  induction as with
  | nil => rfl
  | cons a as ih =>
    rw [List.flatMap_cons, List.append_assoc, h a List.mem_cons_self,
      ih fun b hb => h b (List.mem_cons_of_mem a hb), List.flatMap_cons, List.append_assoc]

end

end Text

open Text (functionMark functionNames functionNames_cons_of_ne functionNames_append_of_not_mem
  functionNames_append_eq_nil functionNames_append_cons functionNames_append_cons_of_eq_nil
  functionNames_of_isIdentifier functionNames_of_blank)

-- ---------------------------------------------------------------------------
-- Descriptors
-- ---------------------------------------------------------------------------

namespace Descriptor

theorem functionNames_of_spells_path {path s : List Char} (hpath : IsPath path)
    (h : Spells [.path path] s) : functionNames s = [] := by
  obtain ⟨blanks, hleads, hblanks⟩ := spells_iff_leads.1 h
  obtain ⟨front, hfront, rfl⟩ := leads_singleton.1 hleads
  have hp : 'p' ∉ front := fun hc => absurd (hfront 'p' hc) (by decide)
  have hspace : ' ' ∉ path := fun hc =>
    absurd (isBlank_of_isPathPart (hpath.isPathPart hc)) (by decide)
  have hf : 'f' ∉ blanks := fun hc => absurd (hblanks 'f' hc) (by decide)
  rw [List.append_assoc, functionNames_append_of_not_mem hp]
  exact functionNames_append_eq_nil hspace hf

theorem functionNames_closed {ts : List Token} {s : List Char} {c : Char}
    (hc : c ∉ functionMark ∧ isIdentifierPart c = false) (h : Spells (ts ++ [.mark c]) s) :
    ∃ inside, Spells ts inside ∧ functionNames s = functionNames inside := by
  obtain ⟨inside, blanks, rfl, hinside, hblanks⟩ := spells_append_mark.1 h
  refine ⟨inside, hinside, ?_⟩
  rw [functionNames_append_cons hc, functionNames_of_blank (spells_nil.1 hblanks), List.append_nil]

theorem functionNames_arguments {head s : List Char} {ts : List Token} (hhead : IsPath head)
    (h : Spells ([.path head, .mark '<'] ++ ts ++ [.mark '>']) s) :
    ∃ inside, Spells ts inside ∧ functionNames s = functionNames inside := by
  obtain ⟨before, after, rfl, hbefore, hafter⟩ := spells_append_mark.1
    (show Spells ([.path head] ++ .mark '<' :: (ts ++ [.mark '>'])) s by simpa using h)
  obtain ⟨inside, hinside, hnames⟩ := functionNames_closed (by decide) hafter
  refine ⟨inside, hinside, ?_⟩
  rw [functionNames_append_cons_of_eq_nil (functionNames_of_spells_path hhead hbefore) (by decide),
    hnames]

mutual
theorem functionNames_of_spells : (d : Descriptor) → {s : List Char} → d.WellFormed →
    Spells d.tokens s → functionNames s = []
  | .name path, s, hw, h => functionNames_of_spells_path hw h
  | .generic head arguments, s, hw, h => by
    obtain ⟨inside, hinside, hnames⟩ := functionNames_arguments hw.1 h
    exact hnames.trans (functionNames_of_spells_list arguments hw.2.2.2 hinside)
  | .tuple elements, s, hw, h => by
    obtain ⟨before, hbefore, hnames⟩ := functionNames_closed (by decide) h
    obtain ⟨blanks, inside, rfl, hblanks, hinside⟩ := spells_append_mark.1
      (show Spells ([] ++ .mark '(' :: listTokens elements) before from hbefore)
    rw [hnames, functionNames_append_cons_of_eq_nil (functionNames_of_blank (spells_nil.1 hblanks))
      (by decide), functionNames_of_spells_list elements hw hinside]
  | .optional inner, s, hw, h => by
    obtain ⟨inside, hinside, hnames⟩ := functionNames_arguments isPath_option h
    exact hnames.trans (functionNames_of_spells inner hw hinside)

theorem functionNames_of_spells_list : (ds : List Descriptor) → {s : List Char} →
    AllWellFormed ds → Spells (listTokens ds) s → functionNames s = []
  | [], s, _, h => functionNames_of_blank (spells_nil.1 h)
  | [d], s, hw, h => functionNames_of_spells d hw.1 h
  | d :: e :: ds, s, hw, h => by
    obtain ⟨before, after, rfl, hbefore, hafter⟩ := spells_append_mark.1
      (show Spells (d.tokens ++ .mark ',' :: listTokens (e :: ds)) s by
        simpa [listTokens] using h)
    rw [functionNames_append_cons_of_eq_nil (functionNames_of_spells d hw.1 hbefore) (by decide),
      functionNames_of_spells_list (e :: ds) hw.2 hafter]
end

theorem functionNames_of_read {s : List Char} {d : Descriptor} (h : read s = .ok d) :
    functionNames s = [] := by
  obtain ⟨hw, hspells⟩ := spells_of_read h
  exact functionNames_of_spells d hw hspells

end Descriptor

-- ---------------------------------------------------------------------------
-- Variants
-- ---------------------------------------------------------------------------

theorem functionNames_commaSeparated {ss : List String}
    (h : ∀ s ∈ ss, functionNames s.toList = []) : functionNames (commaSeparated ss).toList = [] := by
  induction ss with
  | nil => rfl
  | cons s ss ih =>
    obtain ⟨hs, hss⟩ := List.forall_mem_cons.1 h
    cases ss with
    | nil => rwa [commaSeparated_singleton]
    | cons t ss =>
      rw [toList_commaSeparated_cons_cons, functionNames_append_cons_of_eq_nil hs (by decide),
        functionNames_cons_of_ne (by decide), ih hss]

theorem functionNames_index (i : Nat) : functionNames ('_' :: Nat.toDigits 10 i) = [] := by
  refine functionNames_of_isIdentifier ?_
  rw [isIdentifier, Bool.and_eq_true, List.all_eq_true]
  refine ⟨by decide, fun c hc => ?_⟩
  have hdigit := Nat.isDigit_of_mem_toDigits (by decide) (by decide) hc
  simp [isIdentifierPart, Char.isAlphanum, hdigit]

namespace Variant

variable {category : String} {v : Variant}

theorem functionNames_argument {p : String} (hp : p ∈ v.arguments) : functionNames p.toList = [] := by
  obtain ⟨⟨f, i⟩, -, rfl⟩ := List.mem_map.1 hp
  have hindex := functionNames_index i
  cases hboxed : f.boxed with
  | false => simpa [hboxed, Nat.toString_eq_repr, Nat.toList_repr] using hindex
  | true =>
    have hbox : functionNames ("Box::new(".toList ++ '_' :: Nat.toDigits 10 i ++ [')']) = [] := by
      rw [functionNames_append_cons (by decide), functionNames_append_of_not_mem (by decide),
        hindex, functionNames, List.nil_append]
    simpa [hboxed, Nat.toString_eq_repr, Nat.toList_repr] using hbox

theorem Settled.functionNames_parameter (h : v.Settled category) {p : String}
    (hp : p ∈ v.parameters) : functionNames p.toList = [] := by
  obtain ⟨i, hi⟩ := List.mem_iff_getElem?.1 hp
  rw [getElem?_parameters, Option.map_eq_some_iff] at hi
  obtain ⟨f, hf, rfl⟩ := hi
  have hsplit : ("_" ++ toString i ++ ": " ++ f.text).toList =
      ('_' :: Nat.toDigits 10 i) ++ ':' :: ' ' :: f.text.toList := by
    simp [Nat.toString_eq_repr, Nat.toList_repr]
  rw [hsplit, functionNames_append_cons_of_eq_nil (functionNames_index i) (by decide),
    functionNames_cons_of_ne (by decide),
    Descriptor.functionNames_of_read (h.fields f (List.mem_of_getElem? hf)).read]

theorem Settled.functionNames_line (hname : isIdentifier category.toList = true)
    (h : v.Settled category) (t : List Char) :
    functionNames (v.line.toList ++ ['\n'] ++ t) = functionNames t := by
  have htypes : functionNames (commaSeparated v.outline.2).toList = [] := by
    refine functionNames_commaSeparated fun s hs => ?_
    obtain ⟨f, hf, rfl⟩ := List.mem_map.1 hs
    exact Descriptor.functionNames_of_read ((h.fields f hf).redeclared hname).read
  rw [line_append, functionNames_append_of_not_mem (by decide),
    functionNames_append_cons_of_eq_nil (functionNames_of_isIdentifier h.name) (by decide),
    functionNames_append_cons_of_eq_nil htypes (by decide),
    functionNames_append_of_not_mem (by decide)]

theorem Settled.functionNames_constructorText (hname : isIdentifier category.toList = true)
    (h : v.Settled category) (t : List Char) :
    functionNames (v.constructorText category ++ t) = [constructorName v.name] ++ functionNames t := by
  have hsplit : v.constructorText category ++ t = "    ".toList ++
      ((functionMark ++ (constructorName v.name).toList) ++
        '(' :: ((commaSeparated v.parameters).toList ++
          ')' :: (" -> ".toList ++ ((category.toList ++ " ".toList) ++
            '\x7b' :: ("\n        ".toList ++ (category.toList ++
              ':' :: ':' :: (v.name.toList ++ '(' :: ((commaSeparated v.arguments).toList ++
                ')' :: ("\n    \x7d\n".toList ++ t))))))))) := by
    simp [constructorText_append, functionMark]
  have hparameters := functionNames_commaSeparated fun p => h.functionNames_parameter (p := p)
  have hspace : ' ' ∉ category.toList := fun hc =>
    absurd (Text.isIdentifierPart_of_mem hname hc) (by decide)
  have hresult : functionNames (category.toList ++ " ".toList) = [] :=
    functionNames_append_eq_nil hspace (by decide)
  have harguments := functionNames_commaSeparated fun p => functionNames_argument (v := v) (p := p)
  rw [hsplit, functionNames_append_of_not_mem (by decide), functionNames_append_cons (by decide),
    Text.functionNames_mark_append (isIdentifier_constructorName h.name), String.ofList_toList,
    functionNames_append_cons_of_eq_nil hparameters (by decide),
    functionNames_append_of_not_mem (by decide),
    functionNames_append_cons_of_eq_nil hresult (by decide),
    functionNames_append_of_not_mem (by decide),
    functionNames_append_cons_of_eq_nil (functionNames_of_isIdentifier hname) (by decide),
    functionNames_cons_of_ne (by decide),
    functionNames_append_cons_of_eq_nil (functionNames_of_isIdentifier h.name) (by decide),
    functionNames_append_cons_of_eq_nil harguments (by decide),
    functionNames_append_of_not_mem (by decide)]

end Variant

-- ---------------------------------------------------------------------------
-- Declarations
-- ---------------------------------------------------------------------------

namespace Category

variable {c : Category}

theorem functionNames_preamble (name : String) :
    ∀ line ∈ preamble name, functionNames line.toList = [] := by
  unfold preamble importsFor
  split <;> decide +kernel

/-- The line that opens a block. There is no `f` between the name of the category and the bracket,
so the space before the bracket is not that of a mark. -/
theorem Settled.functionNames_opening (h : c.Settled) {head : List Char}
    (hhead : ∀ s, functionNames (head ++ s) = functionNames s) (t : List Char) :
    functionNames (head ++ (c.name.toList ++ ' ' :: ("\x7b\n".toList ++ t))) = functionNames t := by
  have hspace : ' ' ∉ c.name.toList := fun hc =>
    absurd (Text.isIdentifierPart_of_mem h.name hc) (by decide)
  have hname : functionNames (c.name.toList ++ " ".toList) = [] :=
    functionNames_append_eq_nil hspace (by decide)
  have hsplit : c.name.toList ++ ' ' :: ("\x7b\n".toList ++ t) =
      (c.name.toList ++ " ".toList) ++ '\x7b' :: '\n' :: t := by
    simp
  rw [hhead, hsplit, functionNames_append_cons_of_eq_nil hname (by decide),
    functionNames_cons_of_ne (by decide)]

theorem Settled.functionNames_enumText (h : c.Settled) (t : List Char) :
    functionNames (c.enumText ++ t) = functionNames t := by
  have hpreamble : ∀ line ∈ preamble c.name, ∀ s,
      functionNames (line.toList ++ ['\n'] ++ s) = [] ++ functionNames s := by
    intro line hline s
    rw [List.append_assoc, List.singleton_append, functionNames_append_cons (by decide),
      functionNames_preamble c.name line hline]
  have hlines : ∀ v ∈ c.variants, ∀ s,
      functionNames (v.line.toList ++ ['\n'] ++ s) = [] ++ functionNames s :=
    fun v hv s => (h.variants v hv).functionNames_line h.name s
  have hhead (s : List Char) : functionNames ("pub enum ".toList ++ s) = functionNames s := by
    simp [functionNames, functionMark]
  have hnone {α : Type} (as : List α) : as.flatMap (fun _ => ([] : List String)) = [] := by simp
  rw [enumText_append, Text.functionNames_flatMap hpreamble, hnone, List.nil_append,
    h.functionNames_opening hhead, Text.functionNames_flatMap hlines, hnone, List.nil_append,
    functionNames_append_of_not_mem (by decide)]

theorem Settled.functionNames_constructorText (h : c.Settled) :
    functionNames c.constructorText = c.constructorNames := by
  have hfunctions : ∀ v ∈ c.variants, ∀ s, functionNames (v.constructorText c.name ++ s) =
      [constructorName v.name] ++ functionNames s :=
    fun v hv s => (h.variants v hv).functionNames_constructorText h.name s
  have hhead (s : List Char) : functionNames ("\nimpl ".toList ++ s) = functionNames s := by
    simp [functionNames, functionMark]
  have hclosing : functionNames "\x7d\n".toList = [] := by decide
  have hsplit : c.constructorText = "\nimpl ".toList ++ (c.name.toList ++ ' ' :: ("\x7b\n".toList ++
      (c.variants.flatMap (Variant.constructorText c.name) ++ "\x7d\n".toList))) := by
    simpa using c.constructorText_append []
  rw [hsplit, h.functionNames_opening hhead, Text.functionNames_flatMap hfunctions,
    hclosing, List.append_nil, constructorNames, List.map_eq_flatMap]

/-- The functions that a declaration writes are the constructor functions that were asked for. -/
theorem Settled.functionNames_declaration (h : c.Settled) (constructors : Bool) :
    functionNames (c.declaration constructors).toList =
      if constructors then c.constructorNames else [] := by
  rw [toList_declaration, h.functionNames_enumText]
  cases constructors with
  | false => rfl
  | true => exact h.functionNames_constructorText

end Category

end NodeSchema
