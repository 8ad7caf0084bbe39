import NodeSchema.Proofs.TextualDeclaration
/-!
# References to a category

Which names a descriptor mentions, told by the text that it was read from. A path is written in a
text where characters of identifiers and colons stand side by side, as far as they reach. Every
other character of a descriptor parts the paths before it from those after it, so the paths of a
text can be found from the tokens that it spells, one mark at a time.

An optional type does not keep the `Option` that it was written with. So this one name is
mentioned where it stands alone, and not where it stands before an argument.
-/

namespace NodeSchema

namespace Descriptor

open Text (Blank isBlank skipBlanks trim)

def isPathCharacter (c : Char) : Bool := Text.isIdentifierPart c || c == ':'

/-- The path stands in the text, before the rest of it, as far as such characters reach to both
sides. -/
structure Run (path text rest : List Char) : Prop where
  nonempty : path ≠ []
  within : ∀ c ∈ path, isPathCharacter c = true
  start : ∃ before, text = before ++ path ++ rest ∧
    ∀ c, before.getLast? = some c → isPathCharacter c = false
  stop : ∀ c, rest.head? = some c → isPathCharacter c = false

theorem isPathCharacter_of_isBlank {c : Char} (h : isBlank c = true) :
    isPathCharacter c = false := by
  rw [isPathCharacter, Bool.or_eq_false_iff, beq_eq_false_iff_ne]
  constructor
  · rw [Bool.eq_false_iff]
    intro hpart
    rw [isBlank_of_isPathPart (isPathPart_of_isIdentifierPart hpart)] at h
    cases h
  · rintro rfl
    exact absurd h (by decide)

theorem IsPath.isPathCharacter {path : List Char} (h : IsPath path) {c : Char} (hc : c ∈ path) :
    isPathCharacter c = true := by
  simpa [Descriptor.isPathCharacter] using h.isIdentifierPart_or_colon hc

theorem not_run_blank {path text rest : List Char} (hb : Blank text) : ¬ Run path text rest := by
  rintro ⟨hne, hwithin, ⟨before, rfl, -⟩, -⟩
  obtain ⟨c, hc⟩ := List.exists_mem_of_ne_nil path hne
  have hblank := isPathCharacter_of_isBlank (hb c (by simp [hc]))
  rw [hwithin c hc] at hblank
  cases hblank

section
variable {path before after rest : List Char} {c : Char}

theorem Run.append_cons (h : Run path before rest) (hc : isPathCharacter c = false) :
    Run path (before ++ c :: after) (rest ++ c :: after) := by
  obtain ⟨hne, hwithin, ⟨front, rfl, hstart⟩, hstop⟩ := h
  refine ⟨hne, hwithin, ⟨front, by simp, hstart⟩, fun d hd => ?_⟩
  cases rest with
  | nil =>
    obtain rfl : c = d := by simpa using hd
    exact hc
  | cons e rest => exact hstop d hd

theorem Run.cons_append (h : Run path after rest) (hc : isPathCharacter c = false) :
    Run path (before ++ c :: after) rest := by
  obtain ⟨hne, hwithin, ⟨front, rfl, hstart⟩, hstop⟩ := h
  refine ⟨hne, hwithin, ⟨before ++ c :: front, by simp, fun d hd => ?_⟩, hstop⟩
  rw [List.getLast?_append, List.getLast?_cons] at hd
  cases hlast : front.getLast? with
  | none =>
    obtain rfl : c = d := by simpa [hlast] using hd
    exact hc
  | some e =>
    obtain rfl : e = d := by simpa [hlast] using hd
    exact hstart e hlast

/-- A character that is part of no path parts the runs before it from those after it. -/
theorem run_append_cons (hc : isPathCharacter c = false) :
    Run path (before ++ c :: after) rest ↔
      (∃ r, Run path before r ∧ rest = r ++ c :: after) ∨ Run path after rest := by
  constructor
  · rintro ⟨hne, hwithin, ⟨front, heq, hstart⟩, hstop⟩
    have hnot : c ∉ path := fun hm => by
      rw [hwithin c hm] at hc
      cases hc
    rcases List.append_eq_append_iff.1 heq with ⟨x, hfront, hx⟩ | ⟨x, rfl, rfl⟩
    · rcases List.cons_eq_append_iff.1 hx with ⟨rfl, rfl⟩ | ⟨x, rfl, rfl⟩
      · rw [List.append_nil] at hfront
        exact .inl ⟨[], ⟨hne, hwithin, ⟨front, by simp [hfront], hstart⟩, by simp⟩, rfl⟩
      · -- The character stands before the run, for it is no part of it.
        rcases List.append_eq_append_iff.1 hfront with ⟨y, rfl, rfl⟩ | ⟨y, rfl, hy⟩
        · exact absurd (by simp) hnot
        · rcases List.cons_eq_append_iff.1 hy with ⟨rfl, rfl⟩ | ⟨y, rfl, rfl⟩
          · exact absurd List.mem_cons_self hnot
          · refine .inr ⟨hne, hwithin, ⟨y, rfl, fun d hd => hstart d ?_⟩, hstop⟩
            rw [List.getLast?_append, List.getLast?_cons, hd]
            rfl
    · refine .inl ⟨x, ⟨hne, hwithin, ⟨front, rfl, hstart⟩, fun d hd => hstop d ?_⟩, rfl⟩
      rw [List.head?_append, hd, Option.some_or]
  · rintro (⟨r, hrun, rfl⟩ | hrun)
    · exact hrun.append_cons hc
    · exact hrun.cons_append hc

end

theorem run_cons {path s rest : List Char} {c : Char} (hc : isPathCharacter c = false) :
    Run path (c :: s) rest ↔ Run path s rest := by
  have h : Run path ([] ++ c :: s) rest ↔ _ := run_append_cons hc
  rw [List.nil_append] at h
  rw [h, or_iff_right]
  rintro ⟨r, hr, -⟩
  exact not_run_blank .nil hr

theorem run_blank_append {path blanks s rest : List Char} (hb : Blank blanks) :
    Run path (blanks ++ s) rest ↔ Run path s rest := by
  induction blanks with
  | nil => rfl
  | cons b blanks ih =>
    rw [List.cons_append, run_cons (isPathCharacter_of_isBlank (hb b List.mem_cons_self)),
      ih fun c hc => hb c (List.mem_cons_of_mem b hc)]

/-- A path between blanks is the only run. -/
theorem run_of_spells_path {path s : List Char} (hpath : IsPath path)
    (h : Spells [.path path] s) :
    ∃ blanks, Blank blanks ∧ ∀ {p rest}, Run p s rest ↔ p = path ∧ rest = blanks := by
  obtain ⟨blanks, hleads, hb⟩ := spells_iff_leads.1 h
  obtain ⟨front, hfront, rfl⟩ := leads_singleton.1 hleads
  have hstop : ∀ c, blanks.head? = some c → isPathCharacter c = false := fun c hc =>
    isPathCharacter_of_isBlank (hb c (List.mem_of_mem_head? hc))
  refine ⟨blanks, hb, fun {p rest} => ?_⟩
  rw [List.append_assoc, run_blank_append hfront, Token.spelling]
  constructor
  · rintro ⟨hne, hwithin, ⟨before, heq, hstart⟩, hend⟩
    rw [List.append_assoc] at heq
    rcases List.append_eq_append_iff.1 heq with ⟨x, rfl, hx⟩ | ⟨x, rfl, hx⟩
    · -- Nothing but blanks stands behind the path.
      rw [hx] at hb
      have hafter : Blank (p ++ rest) := fun c hc => hb c (List.mem_append_right _ hc)
      have hrun : Run p (p ++ rest) rest := ⟨hne, hwithin, ⟨[], rfl, by simp⟩, hend⟩
      exact absurd hrun (not_run_blank hafter)
    · obtain rfl : before = [] := by
        rcases List.eq_nil_or_concat before with rfl | ⟨before, c, rfl⟩
        · rfl
        · have hlast := hstart c (by simp)
          rw [hpath.isPathCharacter (by simp)] at hlast
          cases hlast
      rw [List.nil_append] at hpath
      have hfound := span_run hwithin hend
      have hgiven := span_run (fun c hc => hpath.isPathCharacter hc) hstop
      rw [hx] at hfound
      exact ⟨hfound.1.symm.trans hgiven.1, hfound.2.symm.trans hgiven.2⟩
  · rintro ⟨rfl, rfl⟩
    exact ⟨hpath.ne_nil, fun c hc => hpath.isPathCharacter hc, ⟨[], rfl, by simp⟩, hstop⟩

-- ---------------------------------------------------------------------------
-- Names that a text mentions
-- ---------------------------------------------------------------------------

def Writes (text path : List Char) : Prop := ∃ rest, Run path text rest

/-- The path is written in the text, and not as the `Option` of an optional type. -/
def Names (text path : List Char) : Prop :=
  ∃ rest, Run path text rest ∧ (path = "Option".toList → (skipBlanks rest).head? ≠ some '<')

/-- The path is written in the text, but only as the `Option` of optional types. -/
def OnlyOptional (text path : List Char) : Prop :=
  path = "Option".toList ∧ Writes text path ∧ ¬ Names text path

theorem Names.writes {text path : List Char} (h : Names text path) : Writes text path := by
  obtain ⟨rest, hrun, -⟩ := h
  exact ⟨rest, hrun⟩

theorem names_iff_writes {text path : List Char} :
    (Names text path ↔ Writes text path) ↔ ¬ OnlyOptional text path := by
  constructor
  · rintro h ⟨-, hwrites, hnot⟩
    exact hnot (h.2 hwrites)
  · refine fun h => ⟨Names.writes, fun ⟨rest, hrun⟩ => ?_⟩
    by_contra hnot
    have hoption : path ≠ "Option".toList := fun hp => h ⟨hp, ⟨rest, hrun⟩, hnot⟩
    exact hnot ⟨rest, hrun, fun hp => absurd hp hoption⟩

theorem not_names_blank {text path : List Char} (hb : Blank text) : ¬ Names text path := by
  rintro ⟨rest, h, -⟩
  exact not_run_blank hb h

theorem names_append_mark {before after path : List Char} {c : Char}
    (hc : c ∈ ['(', ')', '>', ',']) :
    Names (before ++ c :: after) path ↔ Names before path ∨ Names after path := by
  have hmark : isPathCharacter c = false ∧ isBlank c = false ∧ c ≠ '<' := by
    simp only [List.mem_cons, List.not_mem_nil, or_false] at hc
    rcases hc with rfl | rfl | rfl | rfl <;> decide
  have hskip {r : List Char} : (skipBlanks (r ++ c :: after)).head? ≠ some '<' ↔
      (skipBlanks r).head? ≠ some '<' := by
    rw [skipBlanks_append_of_head (by simpa using hmark.2.1), List.head?_append]
    cases (skipBlanks r).head? with
    | none => simpa using hmark.2.2
    | some d => simp
  simp only [Names, run_append_cons hmark.1]
  constructor
  · rintro ⟨rest, ⟨r, hr, rfl⟩ | hrun, harguments⟩
    · exact .inl ⟨r, hr, fun hp => hskip.1 (harguments hp)⟩
    · exact .inr ⟨rest, hrun, harguments⟩
  · rintro (⟨r, hr, harguments⟩ | ⟨rest, hrun, harguments⟩)
    · exact ⟨_, .inl ⟨r, hr, rfl⟩, fun hp => hskip.2 (harguments hp)⟩
    · exact ⟨rest, .inr hrun, harguments⟩

/-- A mark at the end, with blanks after it, adds no name. -/
theorem names_closed {ts : List Token} {s : List Char} {c : Char} (hc : c ∈ ['(', ')', '>', ','])
    (h : Spells (ts ++ [.mark c]) s) :
    ∃ inside, Spells ts inside ∧ ∀ {path}, Names s path ↔ Names inside path := by
  obtain ⟨inside, blanks, rfl, hinside, hblanks⟩ := spells_append_mark.1 h
  refine ⟨inside, hinside, fun {path} => ?_⟩
  rw [names_append_mark hc, or_iff_left (not_names_blank (spells_nil.1 hblanks))]

theorem names_arguments {head before after path : List Char} (hhead : IsPath head)
    (h : Spells [.path head] before) :
    Names (before ++ '<' :: after) path ↔
      path = head ∧ head ≠ "Option".toList ∨ Names after path := by
  obtain ⟨blanks, hb, hrun⟩ := run_of_spells_path hhead h
  have hskip : skipBlanks (blanks ++ '<' :: after) = '<' :: after :=
    Text.skipBlanks_append hb (by simp; decide)
  simp only [Names, run_append_cons (c := '<') (by decide), hrun]
  constructor
  · rintro ⟨rest, ⟨r, ⟨rfl, rfl⟩, rfl⟩ | hafter, harguments⟩
    · refine .inl ⟨rfl, fun hoption => harguments hoption ?_⟩
      rw [hskip, List.head?_cons]
    · exact .inr ⟨rest, hafter, harguments⟩
  · rintro (⟨rfl, hoption⟩ | ⟨rest, hafter, harguments⟩)
    · exact ⟨_, .inl ⟨blanks, ⟨rfl, rfl⟩, rfl⟩, fun hp => absurd hp hoption⟩
    · exact ⟨rest, .inr hafter, harguments⟩

mutual
theorem mentions_iff_names {n : String} : (d : Descriptor) → {text : List Char} → d.WellFormed →
    Spells d.tokens text → (d.mentions n = true ↔ Names text n.toList)
  | .name path, text, hw, h => by
    obtain ⟨blanks, hb, hrun⟩ := run_of_spells_path hw h
    have hend : (skipBlanks blanks).head? ≠ some '<' := by simp [skipBlanks_eq_nil_iff.2 hb]
    simp only [mentions, beq_iff_eq, Names, hrun]
    constructor
    · rintro rfl
      exact ⟨blanks, ⟨rfl, rfl⟩, fun _ => hend⟩
    · rintro ⟨-, ⟨hsame, -⟩, -⟩
      exact String.toList_inj.1 hsame.symm
  | .generic head arguments, text, hw, h => by
    have hsplit : (generic head arguments).tokens =
        [.path head.toList] ++ .mark '<' :: (listTokens arguments ++ [.mark '>']) := by
      simp [tokens]
    rw [hsplit] at h
    obtain ⟨before, after, rfl, hbefore, hafter⟩ := spells_append_mark.1 h
    obtain ⟨inside, hinside, hnames⟩ := names_closed (by simp) hafter
    have hoption : head.toList ≠ "Option".toList := mt String.toList_inj.1 hw.2.1
    rw [names_arguments hw.1 hbefore, and_iff_left hoption, String.toList_inj, hnames,
      ← anyMentions_iff_names arguments hw.2.2.2 hinside, mentions, Bool.or_eq_true, beq_iff_eq,
      eq_comm]
  | .tuple elements, text, hw, h => by
    have hsplit : (tuple elements).tokens =
        [] ++ .mark '(' :: (listTokens elements ++ [.mark ')']) := by simp [tokens]
    rw [hsplit] at h
    obtain ⟨before, after, rfl, hbefore, hafter⟩ := spells_append_mark.1 h
    obtain ⟨inside, hinside, hnames⟩ := names_closed (by simp) hafter
    rw [names_append_mark (by simp), or_iff_right (not_names_blank (spells_nil.1 hbefore)),
      hnames, mentions, anyMentions_iff_names elements hw hinside]
  | .optional inner, text, hw, h => by
    have hsplit : (optional inner).tokens =
        [.path "Option".toList] ++ .mark '<' :: (inner.tokens ++ [.mark '>']) := by simp [tokens]
    rw [hsplit] at h
    obtain ⟨before, after, rfl, hbefore, hafter⟩ := spells_append_mark.1 h
    obtain ⟨inside, hinside, hnames⟩ := names_closed (by simp) hafter
    rw [names_arguments isPath_option hbefore, or_iff_right (fun hhead => hhead.2 rfl), hnames,
      mentions, mentions_iff_names inner hw hinside]

theorem anyMentions_iff_names {n : String} : (ds : List Descriptor) → {text : List Char} →
    AllWellFormed ds → Spells (listTokens ds) text →
    (anyMentions n ds = true ↔ Names text n.toList)
  | [], text, _, h => by
    simp only [anyMentions, Bool.false_eq_true, false_iff]
    exact not_names_blank (spells_nil.1 h)
  | [d], text, hw, h => by
    rw [anyMentions, anyMentions, Bool.or_false, mentions_iff_names d hw.1 h]
  | d :: e :: ds, text, hw, h => by
    rw [listTokens, List.append_assoc, List.singleton_append] at h
    obtain ⟨before, after, rfl, hbefore, hafter⟩ := spells_append_mark.1 h
    rw [names_append_mark (by simp), anyMentions, Bool.or_eq_true,
      mentions_iff_names d hw.1 hbefore, anyMentions_iff_names (e :: ds) hw.2 hafter]
end

end Descriptor

-- ---------------------------------------------------------------------------
-- Reports
-- ---------------------------------------------------------------------------

namespace Variant

variable {n spec : String} {v : Variant}

theorem mentions_iff_of_mem (hread : read spec = .ok v) {f : Field} (hf : f ∈ v.fields) :
    f.type.mentions n = true ↔ Descriptor.Names f.text.toList n.toList := by
  obtain ⟨-, -, htype⟩ := (written_of_read hread).fields f hf
  obtain ⟨hw, hspells⟩ := Descriptor.spells_of_read htype
  exact Descriptor.mentions_iff_names f.type hw hspells

theorem nests_iff (hn : Text.isIdentifier n.toList = true) (hread : read spec = .ok v) {f : Field}
    (hf : f ∈ v.fields) :
    f.nests n = true ↔ Descriptor.Names f.text.toList n.toList ∧ f.text ≠ n := by
  have hexact : f.type.isName n = true ↔ f.text = n := boxed_boxFor_iff hn hread hf
  rw [Field.nests, Bool.and_eq_true, Bool.not_eq_true', ← Bool.not_eq_true, hexact,
    mentions_iff_of_mem hread hf, and_comm]

/-- A field that is exactly a name does not write this name before arguments. -/
theorem nests_iff_writes (hn : Text.isIdentifier n.toList = true) (hread : read spec = .ok v)
    {f : Field} (hf : f ∈ v.fields) :
    (f.nests n = true ↔ Descriptor.Writes f.text.toList n.toList ∧ f.text ≠ n) ↔
      ¬ Descriptor.OnlyOptional f.text.toList n.toList := by
  rw [nests_iff hn hread hf, ← Descriptor.names_iff_writes]
  by_cases hself : f.text = n
  · have hexact : f.type.isName n = true := (boxed_boxFor_iff hn hread hf).2 hself
    have hnames := (mentions_iff_of_mem hread hf).1 (Descriptor.mentions_of_isName hexact)
    simp only [hnames, hnames.writes]
  · simp only [ne_eq, hself, not_false_eq_true, and_true]

end Variant

theorem Category.nestedReferences_eq (c : Category) :
    c.nestedReferences = ((c.variants.flatMap Variant.fields).filter (Field.nests c.name)).map
      fun f => .leftUnboxed c.name f.type := by
  rw [nestedReferences, List.filter_flatMap, List.map_flatMap]
  rfl

/-- A descriptor mentions the paths that are written in its text, at any depth, bare or before
arguments, and no other names. Only the `Option` of an optional type is left out: a text that
writes the name in no other place is the one case where a name is written and not mentioned. So
the fields that are reported are those whose text writes the name of the category but is not that
name, with this exception, and each of them is reported once, in order. -/
theorem mentions_iff_path_written (n : String) :
    (∀ (text : List Char) (d : Descriptor), Descriptor.read text = .ok d →
      (d.mentions n = true ↔ Descriptor.Names text n.toList) ∧
      ((d.mentions n = true ↔ Descriptor.Writes text n.toList) ↔
        ¬ Descriptor.OnlyOptional text n.toList)) ∧
    (Text.isIdentifier n.toList = true → ∀ variants : List Variant,
      (∀ v ∈ variants, ∃ spec, Variant.read spec = .ok v) →
      (Category.mk n variants).nestedReferences =
        ((variants.flatMap Variant.fields).filter (Field.nests n)).map
          (fun f => .leftUnboxed n f.type) ∧
      ∀ v ∈ variants, ∀ f ∈ v.fields,
        (f.nests n = true ↔ Descriptor.Names f.text.toList n.toList ∧ f.text ≠ n) ∧
        ((f.nests n = true ↔ Descriptor.Writes f.text.toList n.toList ∧ f.text ≠ n) ↔
          ¬ Descriptor.OnlyOptional f.text.toList n.toList)) := by
  refine ⟨fun text d hread => ?_, fun hn variants hvariants =>
    ⟨Category.nestedReferences_eq _, ?_⟩⟩
  · obtain ⟨hw, hspells⟩ := Descriptor.spells_of_read hread
    have hnames := Descriptor.mentions_iff_names (n := n) d hw hspells
    exact ⟨hnames, by rw [hnames, Descriptor.names_iff_writes]⟩
  · intro v hv f hf
    obtain ⟨spec, hread⟩ := hvariants v hv
    exact ⟨Variant.nests_iff hn hread hf, Variant.nests_iff_writes hn hread hf⟩

/-- Blanks before the arguments, a path with colons, and a name that is only part of others. -/
theorem mentions_of_qualified_path :
    let text := "Option <(std::rc::Rc\t<Expr>, ExprList)>"
    let d : Descriptor :=
      .optional (.tuple [.generic "std::rc::Rc" [.name "Expr"], .name "ExprList"])
    let c : Category := ⟨"Expr", [⟨"Pair", [⟨text, d, false⟩, ⟨"Expr", .name "Expr", false⟩]⟩]⟩
    Descriptor.read text.toList = .ok d ∧ Descriptor.Writes text.toList "Expr".toList ∧
      Descriptor.Writes text.toList "std::rc::Rc".toList ∧
      ¬ Descriptor.Writes text.toList "Rc".toList ∧
      Variant.read ("Pair | " ++ text ++ ", Expr") =
        .ok ⟨"Pair", c.variants.flatMap Variant.fields⟩ ∧
      c.nestedReferences = [.leftUnboxed "Expr" d] := by
  intro text d c
  have hread : Descriptor.read text.toList = .ok d := by decide +kernel
  have hvariant : Variant.read ("Pair | " ++ text ++ ", Expr") =
      .ok ⟨"Pair", c.variants.flatMap Variant.fields⟩ := by decide +kernel
  have hwrites (n : String) (hn : n ≠ "Option") :
      d.mentions n = true ↔ Descriptor.Writes text.toList n.toList :=
    ((mentions_iff_path_written n).1 _ _ hread).2.2 fun h => hn (String.toList_inj.1 h.1)
  have hevents := ((mentions_iff_path_written "Expr").2 (by decide) c.variants
    (by simpa [c] using ⟨_, hvariant⟩)).1
  refine ⟨hread, (hwrites "Expr" (by decide)).1 (by decide),
    (hwrites "std::rc::Rc" (by decide)).1 (by decide), fun hrc => ?_, hvariant,
    hevents.trans (by decide)⟩
  exact absurd ((hwrites "Rc" (by decide)).2 hrc) (by decide)

/-- The `Option` of an optional type is written in the text, but it is not mentioned, so it is
not reported where it is the name of the category. -/
theorem not_mentions_option_of_arguments :
    let text := "Option<A>".toList
    let d : Descriptor := .optional (.name "A")
    let s : Schema := ⟨"Option", ["Some | Option<A>"]⟩
    Descriptor.read text = .ok d ∧ Text.isIdentifier "Option".toList = true ∧
      Descriptor.Writes text "Option".toList ∧ d.mentions "Option" = false ∧
      s.category.events = [.parsed "Option" "Some" 1] := by
  intro text d s
  have hrun : Descriptor.Run "Option".toList text "<A>".toList := by
    refine ⟨by decide, List.all_eq_true.1 (by decide), ⟨[], by decide, by simp⟩, fun c hc => ?_⟩
    obtain rfl : '<' = c := by simpa using hc
    decide
  exact ⟨by decide +kernel, by decide, ⟨_, hrun⟩, by decide, by decide +kernel⟩

end NodeSchema
