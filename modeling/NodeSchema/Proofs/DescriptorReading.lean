import Mathlib.Data.List.TakeWhile
import NodeSchema.Descriptor.Reader
import NodeSchema.Proofs.Spelling
/-!
# The reader of descriptors accepts its grammar

The readers take the tokens of a well-formed descriptor, or of several with commas between
them, off the front of a text, as far as they go. So a whole text is read if it spells such
tokens (`read_iff_spells`), and no other text is.

Soundness follows the calls of the readers, which work on ever shorter texts; completeness
follows the tree that is to be read.
-/

namespace NodeSchema.Descriptor

open Text (Blank isBlank skipBlanks)

-- ---------------------------------------------------------------------------
-- One token
-- ---------------------------------------------------------------------------

theorem Leads.length_lt {t : Token} {s rest : List Char} (h : Leads [t] s rest)
    (hne : t.spelling ≠ []) : rest.length < s.length := by
  obtain ⟨blanks, -, rfl⟩ := leads_singleton.1 h
  have := List.length_pos_of_ne_nil hne
  simp only [List.length_append]
  omega

theorem skipBlanks_eq_nil_iff {s : List Char} : skipBlanks s = [] ↔ Blank s := by
  rw [skipBlanks, List.dropWhile_eq_nil_iff]
  rfl

theorem skipBlanks_eq_cons_iff {s rest : List Char} {c : Char} (hc : isBlank c = false) :
    skipBlanks s = c :: rest ↔ ∃ blanks, Blank blanks ∧ s = blanks ++ c :: rest := by
  constructor
  · intro h
    exact ⟨s.takeWhile isBlank, Text.blank_takeWhile s,
      by rw [← h, Text.takeWhile_append_skipBlanks]⟩
  · rintro ⟨blanks, hb, rfl⟩
    refine Text.skipBlanks_append hb fun d hd => ?_
    obtain rfl : c = d := by simpa using hd
    exact hc

theorem leads_mark {s rest : List Char} {c : Char} (hc : isBlank c = false) :
    Leads [.mark c] s rest ↔ skipBlanks s = c :: rest := by
  rw [leads_singleton, skipBlanks_eq_cons_iff hc]
  simp [Token.spelling]

theorem accept_eq_some_iff {s : List Char} {c : Char}
    {taken : { rest : List Char // rest.length < s.length }} (hc : isBlank c = false) :
    accept c s = some taken ↔ Leads [.mark c] s taken.1 := by
  rw [leads_mark hc, accept]
  obtain ⟨rest, hlt⟩ := taken
  split
  · next h => simp [h]
  · next d tail h =>
    split
    · next hd => simp [h, hd]
    · next hd => simp [h, hd]

theorem accept_of_leads {s rest : List Char} {c : Char} (hc : isBlank c = false)
    (h : Leads [.mark c] s rest) : ∃ hlt, accept c s = some ⟨rest, hlt⟩ := by
  have hlt := h.length_lt (by simp [Token.spelling])
  exact ⟨hlt, (accept_eq_some_iff hc).2 h⟩

theorem accept_eq_none_iff {s : List Char} {c : Char} :
    accept c s = none ↔ (skipBlanks s).head? ≠ some c := by
  rw [accept]
  split
  · next h => simp [h]
  · next d tail h => simp [h]

theorem expect_eq_ok_iff {s : List Char} {c : Char}
    {taken : { rest : List Char // rest.length < s.length }} (hc : isBlank c = false) :
    expect c s = .ok taken ↔ Leads [.mark c] s taken.1 := by
  rw [← accept_eq_some_iff hc, expect]
  cases accept c s <;> simp

theorem expect_error_iff {s : List Char} {c : Char} {fault : Fault} :
    expect c s = .error fault ↔
      accept c s = none ∧ fault = .missing c (skipBlanks s).head? := by
  rw [expect]
  cases accept c s <;> simp [eq_comm]

theorem span_run {p : Char → Bool} {run rest : List Char} (hrun : ∀ c ∈ run, p c = true)
    (hend : ∀ c, rest.head? = some c → p c = false) :
    (run ++ rest).takeWhile p = run ∧ (run ++ rest).dropWhile p = rest := by
  rw [List.takeWhile_append_of_pos hrun, List.dropWhile_append_of_pos hrun]
  cases rest with
  | nil => simp
  | cons c rest => simp [hend c rfl]

theorem expect_of_leads {s rest : List Char} {c : Char} (hc : isBlank c = false)
    (h : Leads [.mark c] s rest) : ∃ hlt, expect c s = .ok ⟨rest, hlt⟩ := by
  have hlt := h.length_lt (by simp [Token.spelling])
  exact ⟨hlt, (expect_eq_ok_iff hc).2 h⟩

theorem readPath_iff {s rest : List Char} {path : String} :
    (∃ hlt, readPath s = .ok ⟨path, rest, hlt⟩) ↔ IsPath path.toList ∧
      Leads [.path path.toList] s rest ∧ ∀ c, rest.head? = some c → isPathPart c = false := by
  constructor
  · rintro ⟨hlt, h⟩
    rw [readPath] at h
    split at h
    · cases h
    · next c run hrun =>
      split at h
      · next hpath =>
        cases h
        refine ⟨by simpa using isPath_iff.1 hpath, leads_singleton.2 ?_, fun d hd => ?_⟩
        · refine ⟨s.takeWhile isBlank, Text.blank_takeWhile s, ?_⟩
          rw [Token.spelling, String.toList_ofList, ← hrun, List.append_assoc,
            List.takeWhile_append_dropWhile, Text.takeWhile_append_skipBlanks]
        · have := List.head?_dropWhile_not isPathPart (skipBlanks s)
          rwa [hd] at this
      · cases h
  · rintro ⟨hpath, hleads, hend⟩
    obtain ⟨blanks, hb, rfl⟩ := leads_singleton.1 hleads
    have hskip : skipBlanks (blanks ++ path.toList ++ rest) = path.toList ++ rest := by
      rw [List.append_assoc]
      refine Text.skipBlanks_append hb fun c hc => isBlank_of_isPathPart ?_
      rw [List.head?_append_of_ne_nil _ hpath.ne_nil] at hc
      exact hpath.isPathPart (List.mem_of_mem_head? hc)
    obtain ⟨htake, hdrop⟩ := span_run (fun c hc => hpath.isPathPart hc) hend
    refine ⟨?_, ?_⟩
    · have := List.length_pos_of_ne_nil hpath.ne_nil
      simp only [Token.spelling, List.length_append]
      omega
    · rw [readPath]
      split
      · next h =>
        rw [Token.spelling, hskip, htake] at h
        exact absurd h hpath.ne_nil
      · next c run h =>
        rw [Token.spelling, hskip, htake] at h
        rw [if_pos (h ▸ isPath_iff.2 hpath)]
        simp only [← h, Token.spelling, hskip, hdrop, String.ofList_toList]

-- ---------------------------------------------------------------------------
-- What follows a descriptor
-- ---------------------------------------------------------------------------

/-- A name goes on as far as the characters of a path do, and takes the arguments that follow.
Every other descriptor ends with its bracket. -/
def EndsBefore : Descriptor → List Char → Prop
  | .name _, rest =>
    (∀ c, rest.head? = some c → isPathPart c = false) ∧ (skipBlanks rest).head? ≠ some '<'
  | _, _ => True

/-- Several descriptors go on as long as commas follow. -/
def ListEndsBefore (ds : List Descriptor) (rest : List Char) : Prop :=
  (skipBlanks rest).head? ≠ some ',' ∧ ∀ d, ds.getLast? = some d → d.EndsBefore rest

/-- What ends a path after blanks ends it before them, for a blank ends it too. -/
theorem head?_of_head?_skipBlanks {rest : List Char}
    (h : ∀ c, (skipBlanks rest).head? = some c → isPathPart c = false) :
    ∀ c, rest.head? = some c → isPathPart c = false := by
  intro c hc
  cases rest with
  | nil => cases hc
  | cons d rest =>
    obtain rfl : d = c := by simpa using hc
    by_cases hb : isBlank d = true
    · rw [Bool.eq_false_iff]
      intro hp
      rw [isBlank_of_isPathPart hp] at hb
      cases hb
    · exact h d (by simp [skipBlanks, hb])

theorem endsBefore_of_head {d : Descriptor} {rest : List Char}
    (h : ∀ c, (skipBlanks rest).head? = some c → isPathPart c = false ∧ c ≠ '<') :
    d.EndsBefore rest := by
  cases d with
  | name path =>
    exact ⟨head?_of_head?_skipBlanks fun c hc => (h c hc).1, fun hopen => (h '<' hopen).2 rfl⟩
  | _ => trivial

theorem endsBefore_of_blank {d : Descriptor} {rest : List Char} (h : Blank rest) :
    d.EndsBefore rest := by
  refine endsBefore_of_head fun c hc => ?_
  rw [skipBlanks_eq_nil_iff.2 h] at hc
  cases hc

theorem endsBefore_of_leads {d : Descriptor} {rest after : List Char} {c : Char}
    (hc : c ∈ [',', ')', '>']) (h : Leads [.mark c] rest after) : d.EndsBefore rest := by
  have apart : isBlank c = false ∧ isPathPart c = false ∧ c ≠ '<' := by
    simp only [List.mem_cons, List.not_mem_nil, or_false] at hc
    rcases hc with rfl | rfl | rfl <;> decide
  refine endsBefore_of_head fun b hb => ?_
  rw [(leads_mark apart.1).1 h] at hb
  obtain rfl : c = b := by simpa using hb
  exact apart.2

theorem listEndsBefore_of_leads {ds : List Descriptor} {rest after : List Char} {c : Char}
    (hc : c ∈ [')', '>']) (h : Leads [.mark c] rest after) : ListEndsBefore ds rest := by
  refine ⟨?_, fun d _ => endsBefore_of_leads (List.mem_cons_of_mem _ hc) h⟩
  have apart : isBlank c = false ∧ c ≠ ',' := by
    simp only [List.mem_cons, List.not_mem_nil, or_false] at hc
    rcases hc with rfl | rfl <;> decide
  rw [(leads_mark apart.1).1 h]
  simpa using apart.2

theorem leads_bracketed {ts : List Token} {opener closer : Char} {s rest : List Char} :
    Leads ([.mark opener] ++ ts ++ [.mark closer]) s rest ↔
      ∃ inside closing, Leads [.mark opener] s inside ∧ Leads ts inside closing ∧
        Leads [.mark closer] closing rest := by
  rw [leads_append]
  constructor
  · rintro ⟨closing, h, hclose⟩
    obtain ⟨inside, hopen, h⟩ := leads_append.1 h
    exact ⟨inside, closing, hopen, h, hclose⟩
  · rintro ⟨inside, closing, hopen, h, hclose⟩
    exact ⟨closing, leads_append.2 ⟨inside, hopen, h⟩, hclose⟩

-- ---------------------------------------------------------------------------
-- Soundness
-- ---------------------------------------------------------------------------

/-- The ways in which `readOne` ends, with the call of `readMany` that it makes. -/
inductive OneRead (s : List Char) : Except Fault (Taken Descriptor s) → Prop where
  | unit {inside rest : List Char} {hlt : rest.length < s.length} :
    Leads [.mark '('] s inside → Leads [.mark ')'] inside rest →
    OneRead s (.ok ⟨.tuple [], rest, hlt⟩)
  | tuple {inside closing rest : List Char} {elements : List Descriptor}
    {hlt : closing.length < inside.length} {hrest : rest.length < s.length} :
    Leads [.mark '('] s inside → readMany inside = .ok ⟨elements, closing, hlt⟩ →
    Leads [.mark ')'] closing rest → OneRead s (.ok ⟨.tuple elements, rest, hrest⟩)
  | name {path : String} {rest : List Char} {hlt : rest.length < s.length} :
    IsPath path.toList → Leads [.path path.toList] s rest → (Descriptor.name path).EndsBefore rest →
    OneRead s (.ok ⟨.name path, rest, hlt⟩)
  | optional {after inside closing rest : List Char} {inner : Descriptor}
    {hlt : closing.length < inside.length} {hrest : rest.length < s.length} :
    Leads [.path "Option".toList] s after → Leads [.mark '<'] after inside →
    readMany inside = .ok ⟨[inner], closing, hlt⟩ → Leads [.mark '>'] closing rest →
    OneRead s (.ok ⟨.optional inner, rest, hrest⟩)
  | generic {head : String} {after inside closing rest : List Char}
    {arguments : List Descriptor} {hlt : closing.length < inside.length}
    {hrest : rest.length < s.length} :
    IsPath head.toList → head ≠ "Option" → Leads [.path head.toList] s after →
    Leads [.mark '<'] after inside → readMany inside = .ok ⟨arguments, closing, hlt⟩ →
    Leads [.mark '>'] closing rest → OneRead s (.ok ⟨.generic head arguments, rest, hrest⟩)
  | noPath {fault : Fault} : readPath s = .error fault → OneRead s (.error fault)
  | within {inside : List Char} {fault : Fault} : inside.length < s.length →
    readMany inside = .error fault → OneRead s (.error fault)
  | unclosed {closer : Char} {found : Option Char} : OneRead s (.error (.missing closer found))
  | argumentCount {found : Nat} : OneRead s (.error (.argumentCount found))

theorem oneRead_readOne (s : List Char) : OneRead s (readOne s) := by
  rw [readOne]
  cases hopen : accept '(' s with
  | some inside =>
    have hinside := (accept_eq_some_iff (by decide)).1 hopen
    dsimp only
    cases hclose : accept ')' inside.1 with
    | some taken => exact .unit hinside ((accept_eq_some_iff (by decide)).1 hclose)
    | none =>
      dsimp only
      cases hmany : readMany inside.1 with
      | error fault => exact .within inside.2 hmany
      | ok elements =>
        dsimp only
        cases hexpect : expect ')' elements.rest with
        | error fault =>
          obtain ⟨-, rfl⟩ := expect_error_iff.1 hexpect
          exact .unclosed
        | ok taken => exact .tuple hinside hmany ((expect_eq_ok_iff (by decide)).1 hexpect)
  | none =>
    dsimp only
    cases hpath : readPath s with
    | error fault => exact .noPath hpath
    | ok head =>
      obtain ⟨hw, hhead, hend⟩ := readPath_iff.1 ⟨head.shorter, hpath⟩
      dsimp only
      cases hargs : accept '<' head.rest with
      | none => exact .name hw hhead ⟨hend, accept_eq_none_iff.1 hargs⟩
      | some inside =>
        have hinside := (accept_eq_some_iff (by decide)).1 hargs
        dsimp only
        cases hmany : readMany inside.1 with
        | error fault => exact .within (inside.2.trans head.shorter) hmany
        | ok taken =>
          obtain ⟨arguments, closing, hclosing⟩ := taken
          dsimp only
          cases hexpect : expect '>' closing with
          | error fault =>
            obtain ⟨-, rfl⟩ := expect_error_iff.1 hexpect
            exact .unclosed
          | ok taken =>
            have hclose := (expect_eq_ok_iff (by decide)).1 hexpect
            dsimp only
            split
            · next hoption =>
              split
              · next inner => exact .optional (hoption ▸ hhead) hinside hmany hclose
              · exact .argumentCount
            · next hoption => exact .generic hw hoption hhead hinside hmany hclose

/-- The ways in which `readMany` ends, with the calls that it makes. -/
inductive ManyRead (s : List Char) : Except Fault (Taken (List Descriptor) s) → Prop where
  | last {d : Descriptor} {rest : List Char} {hlt : rest.length < s.length} :
    readOne s = .ok ⟨d, rest, hlt⟩ → (skipBlanks rest).head? ≠ some ',' →
    ManyRead s (.ok ⟨[d], rest, hlt⟩)
  | more {d : Descriptor} {ds : List Descriptor} {after next rest : List Char}
    {hlt : after.length < s.length} {hnext : rest.length < next.length}
    {hrest : rest.length < s.length} :
    readOne s = .ok ⟨d, after, hlt⟩ → Leads [.mark ','] after next →
    readMany next = .ok ⟨ds, rest, hnext⟩ → ManyRead s (.ok ⟨d :: ds, rest, hrest⟩)
  | noFirst {fault : Fault} : readOne s = .error fault → ManyRead s (.error fault)
  | noOthers {next : List Char} {fault : Fault} : next.length < s.length →
    readMany next = .error fault → ManyRead s (.error fault)

theorem manyRead_readMany (s : List Char) : ManyRead s (readMany s) := by
  rw [readMany]
  cases hone : readOne s with
  | error fault => exact .noFirst hone
  | ok first =>
    dsimp only
    cases hcomma : accept ',' first.rest with
    | none => exact .last hone (accept_eq_none_iff.1 hcomma)
    | some next =>
      dsimp only
      cases hmany : readMany next.1 with
      | error fault => exact .noOthers (next.2.trans first.shorter) hmany
      | ok others => exact .more hone ((accept_eq_some_iff (by decide)).1 hcomma) hmany

mutual
theorem readOne_sound {s rest : List Char} {d : Descriptor} {hlt : rest.length < s.length}
    (h : readOne s = .ok ⟨d, rest, hlt⟩) :
    d.WellFormed ∧ Leads d.tokens s rest ∧ d.EndsBefore rest := by
  have hread := oneRead_readOne s
  rw [h] at hread
  cases hread with
  | unit hopen hclose =>
    exact ⟨trivial, leads_bracketed.2 ⟨_, _, hopen, leads_nil.2 rfl, hclose⟩, trivial⟩
  | tuple hopen hmany hclose =>
    have := hopen.length_lt (by simp [Token.spelling])
    obtain ⟨hw, hleads, -⟩ := readMany_sound hmany
    exact ⟨hw, leads_bracketed.2 ⟨_, _, hopen, hleads, hclose⟩, trivial⟩
  | name hpath hleads hend => exact ⟨hpath, hleads, hend⟩
  | optional hhead hopen hmany hclose =>
    have := hhead.length_lt (by decide)
    have := hopen.length_lt (by simp [Token.spelling])
    obtain ⟨hw, hleads, -⟩ := readMany_sound hmany
    have hargs := leads_bracketed.2 ⟨_, _, hopen, hleads, hclose⟩
    exact ⟨hw.1, leads_cons.2 ⟨_, hhead, hargs⟩, trivial⟩
  | generic hpath hoption hhead hopen hmany hclose =>
    have := hhead.length_lt hpath.ne_nil
    have := hopen.length_lt (by simp [Token.spelling])
    obtain ⟨hw, hleads, hne, -⟩ := readMany_sound hmany
    have hargs := leads_bracketed.2 ⟨_, _, hopen, hleads, hclose⟩
    exact ⟨⟨hpath, hoption, hne, hw⟩, leads_cons.2 ⟨_, hhead, hargs⟩, trivial⟩
termination_by 2 * s.length

theorem readMany_sound {s rest : List Char} {ds : List Descriptor}
    {hlt : rest.length < s.length} (h : readMany s = .ok ⟨ds, rest, hlt⟩) :
    AllWellFormed ds ∧ Leads (listTokens ds) s rest ∧ ds ≠ [] ∧ ListEndsBefore ds rest := by
  have hread := manyRead_readMany s
  rw [h] at hread
  cases hread with
  | last hone hcomma =>
    obtain ⟨hw, hleads, hend⟩ := readOne_sound hone
    exact ⟨⟨hw, trivial⟩, hleads, by simp, hcomma, by simpa using hend⟩
  | @more d ds after next _ hlt _ _ hone hcomma hmany =>
    have := hcomma.length_lt (by simp [Token.spelling])
    obtain ⟨hw, hleads, -⟩ := readOne_sound hone
    obtain ⟨hwothers, hothers, hne, hendOthers⟩ := readMany_sound hmany
    obtain ⟨e, es, rfl⟩ := List.exists_cons_of_ne_nil hne
    refine ⟨⟨hw, hwothers⟩, ?_, by simp, hendOthers.1, ?_⟩
    · exact leads_append.2 ⟨next, leads_append.2 ⟨after, hleads, hcomma⟩, hothers⟩
    · simpa [ListEndsBefore] using hendOthers.2
termination_by 2 * s.length + 1
end

-- ---------------------------------------------------------------------------
-- Completeness
-- ---------------------------------------------------------------------------

theorem head?_of_leads_path {path : List Char} {ts : List Token} {s rest : List Char}
    (hpath : IsPath path) (h : Leads (.path path :: ts) s rest) :
    ∃ c, (skipBlanks s).head? = some c ∧ isPathPart c = true := by
  obtain ⟨after, h, -⟩ := leads_cons.1 h
  obtain ⟨blanks, hb, rfl⟩ := leads_singleton.1 h
  obtain ⟨c, run, rfl⟩ := List.exists_cons_of_ne_nil hpath.ne_nil
  have hc := hpath.isPathPart (c := c) List.mem_cons_self
  have hskip : skipBlanks (blanks ++ c :: (run ++ after)) = c :: (run ++ after) :=
    (skipBlanks_eq_cons_iff (isBlank_of_isPathPart hc)).2 ⟨blanks, hb, rfl⟩
  refine ⟨c, ?_, hc⟩
  rw [Token.spelling, List.append_assoc, List.cons_append, hskip, List.head?_cons]

theorem isPath_option : IsPath "Option".toList := .of_isIdentifier (by decide)

theorem head?_of_leads {d : Descriptor} {ts : List Token} {s rest : List Char}
    (hw : d.WellFormed) (h : Leads (d.tokens ++ ts) s rest) :
    ∃ c, (skipBlanks s).head? = some c ∧ (c = '(' ∨ isPathPart c = true) := by
  cases d with
  | name path =>
    obtain ⟨c, hc, hp⟩ := head?_of_leads_path hw h
    exact ⟨c, hc, .inr hp⟩
  | generic head arguments =>
    obtain ⟨c, hc, hp⟩ := head?_of_leads_path hw.1 h
    exact ⟨c, hc, .inr hp⟩
  | optional inner =>
    obtain ⟨c, hc, hp⟩ := head?_of_leads_path isPath_option h
    exact ⟨c, hc, .inr hp⟩
  | tuple elements =>
    obtain ⟨after, h, -⟩ := leads_cons.1 h
    exact ⟨'(', by rw [(leads_mark (by decide)).1 h, List.head?_cons], .inl rfl⟩

/-- A list of descriptors starts like its first one, so it does not start with a bracket that
closes. -/
theorem accept_closer_of_leads {d : Descriptor} {ds : List Descriptor} {s rest : List Char}
    (hw : AllWellFormed (d :: ds)) (h : Leads (listTokens (d :: ds)) s rest) :
    accept ')' s = none := by
  have starts : ∃ ts, listTokens (d :: ds) = d.tokens ++ ts := by
    cases ds with
    | nil => exact ⟨[], by simp [listTokens]⟩
    | cons e ds => exact ⟨_, by rw [listTokens, List.append_assoc]⟩
  obtain ⟨ts, hts⟩ := starts
  obtain ⟨c, hc, hor⟩ := head?_of_leads hw.1 (hts ▸ h)
  rw [accept_eq_none_iff, hc]
  rintro ⟨⟩
  rcases hor with hor | hor <;> exact absurd hor (by decide)

theorem readPath_of_leads {head : String} {s after : List Char} (hpath : IsPath head.toList)
    (h : Leads [.path head.toList] s after)
    (hend : ∀ c, after.head? = some c → isPathPart c = false) :
    accept '(' s = none ∧ ∃ hlt, readPath s = .ok ⟨head, after, hlt⟩ := by
  refine ⟨?_, readPath_iff.2 ⟨hpath, h, hend⟩⟩
  obtain ⟨c, hc, hp⟩ := head?_of_leads_path hpath h
  rw [accept_eq_none_iff, hc]
  rintro ⟨⟩
  exact absurd hp (by decide)

/-- A path that arguments follow ends before them. -/
theorem head?_of_leads_opener {s rest : List Char} (h : Leads [.mark '<'] s rest) :
    ∀ c, s.head? = some c → isPathPart c = false := by
  refine head?_of_head?_skipBlanks fun c hc => ?_
  rw [(leads_mark (by decide)).1 h] at hc
  obtain rfl : '<' = c := by simpa using hc
  decide

mutual
theorem readOne_complete {s rest : List Char} : (d : Descriptor) → d.WellFormed →
    Leads d.tokens s rest → d.EndsBefore rest → ∃ hlt, readOne s = .ok ⟨d, rest, hlt⟩
  | .name path, hw, h, hend => by
    obtain ⟨hopen, hlt, hpath⟩ := readPath_of_leads hw h hend.1
    have hargs := accept_eq_none_iff.2 hend.2
    refine ⟨hlt, ?_⟩
    rw [readOne]
    simp only [hopen, hpath, hargs]
  | .tuple [], _, h, _ => by
    obtain ⟨inside, closing, hopen, hnil, hclose⟩ := leads_bracketed.1 h
    obtain rfl := leads_nil.1 hnil
    obtain ⟨hltOpen, hopen⟩ := accept_of_leads (by decide) hopen
    obtain ⟨hltClose, hclose⟩ := accept_of_leads (by decide) hclose
    refine ⟨by omega, ?_⟩
    rw [readOne]
    simp only [hopen, hclose]
  | .tuple (d :: ds), hw, h, _ => by
    obtain ⟨inside, closing, hopen, helements, hclose⟩ := leads_bracketed.1 h
    obtain ⟨hltOpen, hopen⟩ := accept_of_leads (by decide) hopen
    have hnone := accept_closer_of_leads hw helements
    obtain ⟨hltMany, hmany⟩ := readMany_complete (d :: ds) (by simp) hw helements
      (listEndsBefore_of_leads (by simp) hclose)
    obtain ⟨hltClose, hexpect⟩ := expect_of_leads (by decide) hclose
    refine ⟨by omega, ?_⟩
    rw [readOne]
    simp only [hopen, hnone, hmany, hexpect]
  | .generic head arguments, hw, h, _ => by
    obtain ⟨after, hhead, h⟩ := leads_cons.1 h
    obtain ⟨inside, closing, hopen, harguments, hclose⟩ := leads_bracketed.1 h
    obtain ⟨hnone, hltPath, hpath⟩ := readPath_of_leads hw.1 hhead (head?_of_leads_opener hopen)
    obtain ⟨hltOpen, hopen⟩ := accept_of_leads (by decide) hopen
    obtain ⟨hltMany, hmany⟩ := readMany_complete arguments hw.2.2.1 hw.2.2.2 harguments
      (listEndsBefore_of_leads (by simp) hclose)
    obtain ⟨hltClose, hexpect⟩ := expect_of_leads (by decide) hclose
    refine ⟨by omega, ?_⟩
    rw [readOne]
    simp only [hnone, hpath, hopen, hmany, hexpect, if_neg hw.2.1]
  | .optional inner, hw, h, _ => by
    obtain ⟨after, hhead, h⟩ := leads_cons.1 h
    obtain ⟨inside, closing, hopen, hinner, hclose⟩ := leads_bracketed.1 h
    obtain ⟨hnone, hltPath, hpath⟩ :=
      readPath_of_leads isPath_option hhead (head?_of_leads_opener hopen)
    obtain ⟨hltOpen, hopen⟩ := accept_of_leads (by decide) hopen
    -- One argument is read by the reader of several.
    obtain ⟨hltOne, hone⟩ := readOne_complete inner hw hinner
      (endsBefore_of_leads (by simp) hclose)
    have hends : ListEndsBefore [inner] closing := listEndsBefore_of_leads (by simp) hclose
    obtain ⟨hltClose, hexpect⟩ := expect_of_leads (by decide) hclose
    refine ⟨by omega, ?_⟩
    rw [readOne]
    simp only [hnone, hpath, hopen]
    rw [readMany]
    simp only [hone, accept_eq_none_iff.2 hends.1, hexpect, ↓reduceIte]

theorem readMany_complete {s rest : List Char} : (ds : List Descriptor) → ds ≠ [] →
    AllWellFormed ds → Leads (listTokens ds) s rest → ListEndsBefore ds rest →
    ∃ hlt, readMany s = .ok ⟨ds, rest, hlt⟩
  | [], hne, _, _, _ => absurd rfl hne
  | [d], _, hw, h, hend => by
    obtain ⟨hlt, hone⟩ := readOne_complete d hw.1 h (hend.2 d rfl)
    refine ⟨hlt, ?_⟩
    rw [readMany]
    simp only [hone, accept_eq_none_iff.2 hend.1]
  | d :: e :: ds, _, hw, h, hend => by
    obtain ⟨next, h, hothers⟩ := leads_append.1 h
    obtain ⟨after, hfirst, hcomma⟩ := leads_append.1 h
    obtain ⟨hltOne, hone⟩ := readOne_complete d hw.1 hfirst
      (endsBefore_of_leads (by simp) hcomma)
    obtain ⟨hltComma, hcomma⟩ := accept_of_leads (by decide) hcomma
    obtain ⟨hltMany, hmany⟩ := readMany_complete (e :: ds) (by simp) hw.2 hothers
      ⟨hend.1, by simpa [ListEndsBefore] using hend.2⟩
    refine ⟨by omega, ?_⟩
    rw [readMany]
    simp only [hone, hcomma, hmany]
end

theorem spells_of_read {text : List Char} {d : Descriptor} (h : read text = .ok d) :
    d.WellFormed ∧ Spells d.tokens text := by
  rw [read] at h
  cases hone : readOne text with
  | error fault => simp [hone] at h
  | ok taken =>
    simp only [hone] at h
    split at h
    · next hrest =>
      cases h
      obtain ⟨hw, hleads, -⟩ := readOne_sound hone
      exact ⟨hw, spells_iff_leads.2 ⟨taken.rest, hleads, skipBlanks_eq_nil_iff.1 hrest⟩⟩
    · cases h

theorem read_of_spells {text : List Char} {d : Descriptor} (hw : d.WellFormed)
    (h : Spells d.tokens text) : read text = .ok d := by
  obtain ⟨rest, hleads, hblank⟩ := spells_iff_leads.1 h
  obtain ⟨hlt, hone⟩ := readOne_complete d hw hleads (endsBefore_of_blank hblank)
  rw [read]
  simp only [hone, skipBlanks_eq_nil_iff.2 hblank]

/-- A whole text is read exactly if it spells a well-formed descriptor. -/
theorem read_iff_spells {text : List Char} {d : Descriptor} :
    read text = .ok d ↔ d.WellFormed ∧ Spells d.tokens text :=
  ⟨spells_of_read, fun ⟨hw, h⟩ => read_of_spells hw h⟩

end NodeSchema.Descriptor
