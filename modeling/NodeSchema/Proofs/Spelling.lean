import Mathlib.Data.List.Forall2
import NodeSchema.Proofs.Characters
/-!
# Texts that spell tokens

`Spells` speaks of a whole text; a reader takes tokens off the front of one and leaves the
rest. `Leads` says which rest that is: blanks before a token go with it, blanks after the
last one stay. Both relations are cut apart where the tokens are cut apart.
-/

namespace NodeSchema.Descriptor

open Text (Blank)

/-- The text starts with the tokens, blanks before each as it likes, and goes on with the
rest. -/
inductive Leads : List Token → List Char → List Char → Prop where
  | done {rest : List Char} : Leads [] rest rest
  | token {t : Token} {ts : List Token} {blanks s rest : List Char} :
    Blank blanks → Leads ts s rest → Leads (t :: ts) (blanks ++ t.spelling ++ s) rest

@[simp] theorem leads_nil {s rest : List Char} : Leads [] s rest ↔ s = rest :=
  ⟨fun h => by cases h; rfl, fun h => h ▸ .done⟩

theorem leads_cons {t : Token} {ts : List Token} {s rest : List Char} :
    Leads (t :: ts) s rest ↔ ∃ after, Leads [t] s after ∧ Leads ts after rest := by
  constructor
  · intro h
    cases h with
    | @token _ _ blanks after _ hb h => exact ⟨after, .token hb .done, h⟩
  · rintro ⟨after, ht, h⟩
    cases ht with
    | token hb ht =>
      obtain rfl := leads_nil.1 ht
      exact .token hb h

theorem leads_append {ts us : List Token} {s rest : List Char} :
    Leads (ts ++ us) s rest ↔ ∃ after, Leads ts s after ∧ Leads us after rest := by
  induction ts generalizing s with
  | nil => simp
  | cons t ts ih =>
    rw [List.cons_append, leads_cons]
    constructor
    · rintro ⟨first, ht, h⟩
      obtain ⟨after, hts, hus⟩ := ih.1 h
      exact ⟨after, leads_cons.2 ⟨first, ht, hts⟩, hus⟩
    · rintro ⟨after, h, hus⟩
      obtain ⟨first, ht, hts⟩ := leads_cons.1 h
      exact ⟨first, ht, ih.2 ⟨after, hts, hus⟩⟩

theorem leads_singleton {t : Token} {s rest : List Char} :
    Leads [t] s rest ↔ ∃ blanks, Blank blanks ∧ s = blanks ++ t.spelling ++ rest := by
  constructor
  · intro h
    cases h with
    | token hb h =>
      obtain rfl := leads_nil.1 h
      exact ⟨_, hb, rfl⟩
  · rintro ⟨blanks, hb, rfl⟩
    exact .token hb .done

/-- A spelled text is one whose tokens lead to blanks only. -/
theorem spells_iff_leads {ts : List Token} {s : List Char} :
    Spells ts s ↔ ∃ rest, Leads ts s rest ∧ Blank rest := by
  constructor
  · intro h
    induction h with
    | done hb => exact ⟨_, .done, hb⟩
    | token hb _ ih =>
      obtain ⟨rest, h, hr⟩ := ih
      exact ⟨rest, .token hb h, hr⟩
  · rintro ⟨rest, h, hr⟩
    induction h with
    | done => exact .done hr
    | token hb _ ih => exact .token hb (ih hr)

-- ---------------------------------------------------------------------------
-- Blanks around a spelled text
-- ---------------------------------------------------------------------------

theorem spells_nil {s : List Char} : Spells [] s ↔ Blank s :=
  ⟨fun h => by cases h; assumption, .done⟩

theorem Spells.blank_append {ts : List Token} {blanks s : List Char} (hb : Blank blanks)
    (h : Spells ts s) : Spells ts (blanks ++ s) := by
  cases h with
  | done hs => exact .done (hb.append hs)
  | token hs h =>
    rw [List.append_assoc, ← List.append_assoc, ← List.append_assoc]
    exact .token (hb.append hs) h

theorem Spells.append_blank {ts : List Token} {blanks s : List Char} (h : Spells ts s)
    (hb : Blank blanks) : Spells ts (s ++ blanks) := by
  induction h with
  | done hs => exact .done (hs.append hb)
  | token hs _ ih =>
    rw [List.append_assoc]
    exact .token hs ih

theorem Spells.append {ts us : List Token} {s t : List Char} (hs : Spells ts s)
    (ht : Spells us t) : Spells (ts ++ us) (s ++ t) := by
  induction hs with
  | done hb => exact ht.blank_append hb
  | token hb _ ih =>
    rw [List.append_assoc]
    exact .token hb ih

/-- Around a mark the blanks go with what stands before it and after it. -/
theorem spells_append_mark {ts us : List Token} {c : Char} {s : List Char} :
    Spells (ts ++ .mark c :: us) s ↔
      ∃ before after, s = before ++ c :: after ∧ Spells ts before ∧ Spells us after := by
  constructor
  · intro h
    induction ts generalizing s with
    | nil =>
      cases h with
      | @token _ _ blanks rest hb h => exact ⟨blanks, rest, by simp [Token.spelling], .done hb, h⟩
    | cons t ts ih =>
      cases h with
      | @token _ _ blanks _ hb h =>
        obtain ⟨before, after, rfl, hbefore, hafter⟩ := ih h
        exact ⟨blanks ++ t.spelling ++ before, after, by simp, .token hb hbefore, hafter⟩
  · rintro ⟨before, after, rfl, hbefore, hafter⟩
    exact hbefore.append (.token (t := .mark c) .nil hafter)

/-- Descriptors with commas between them are spelled by texts with commas between them. -/
theorem spells_listTokens {ds : List Descriptor} {s : List Char} (hne : ds ≠ []) :
    Spells (listTokens ds) s ↔
      ∃ pieces, List.Forall₂ (fun d piece => Spells d.tokens piece) ds pieces ∧
        s = [','].intercalate pieces := by
  induction ds generalizing s with
  | nil => exact absurd rfl hne
  | cons d ds ih =>
    cases ds with
    | nil =>
      constructor
      · intro h
        exact ⟨[s], .cons h .nil, by simp⟩
      · rintro ⟨pieces, hall, rfl⟩
        cases hall with
        | cons h hnil =>
          cases hnil
          simpa [listTokens] using h
    | cons e ds =>
      rw [listTokens, List.append_assoc, List.singleton_append, spells_append_mark]
      constructor
      · rintro ⟨before, after, rfl, hbefore, hafter⟩
        obtain ⟨pieces, hall, rfl⟩ := (ih (by simp)).1 hafter
        refine ⟨before :: pieces, .cons hbefore hall, ?_⟩
        rw [List.intercalate_cons_of_ne_nil (by rintro rfl; cases hall)]
        simp
      · rintro ⟨pieces, hall, rfl⟩
        cases hall with
        | @cons _ before _ pieces hbefore hall =>
          refine ⟨before, [','].intercalate pieces, ?_, hbefore, (ih (by simp)).2 ⟨pieces, hall, rfl⟩⟩
          rw [List.intercalate_cons_of_ne_nil (by rintro rfl; cases hall)]
          simp

end NodeSchema.Descriptor
