import Mathlib.Data.List.ModifyLast
import NodeSchema.Variant
import NodeSchema.Proofs.Characters
/-!
# Cutting field lists

A text that starts and ends outside all brackets, and has no comma there, is one piece.
`cut_iff` says that cutting finds such pieces and nothing else: the cut of a text is the
list of pieces whose commas have been put back. Blanks around the whole text end up around
its first and its last piece.
-/

namespace NodeSchema.FieldList

open Text (Blank isBlank trim)

/-- How many brackets are open after a text, where `depth` are open before it. There is no
answer if a bracket closes that is not open, or if a comma stands outside all brackets. -/
def depthOver (depth : Nat) : List Char → Option Nat
  | [] => some depth
  | c :: s =>
    if c = ',' ∧ depth = 0 then none
    else (depthAfter depth c).bind fun after => depthOver after s

@[simp] theorem depthOver_nil {depth : Nat} : depthOver depth [] = some depth := rfl

theorem depthOver_append {depth : Nat} {s t : List Char} :
    depthOver depth (s ++ t) = (depthOver depth s).bind fun after => depthOver after t := by
  induction s generalizing depth with
  | nil => rfl
  | cons c s ih =>
    rw [List.cons_append, depthOver, depthOver]
    split
    · rfl
    · rw [Option.bind_assoc]
      exact Option.bind_congr fun after _ => ih

theorem isCloser_of_isOpener {c : Char} (h : isOpener c = true) : isCloser c = false := by
  have : c = '<' ∨ c = '(' := by simpa [isOpener] using h
  rcases this with rfl | rfl <;> rfl

/-- A character that the cut does not look at. -/
def Plain (c : Char) : Prop := isOpener c = false ∧ isCloser c = false ∧ c ≠ ','

theorem depthAfter_of_plain {depth : Nat} {c : Char} (hc : Plain c) :
    depthAfter depth c = some depth := by
  simp [depthAfter, hc.1, hc.2.1]

@[simp] theorem depthAfter_comma {depth : Nat} : depthAfter depth ',' = some depth := by
  simp [depthAfter, isOpener, isCloser]

theorem depthOver_of_plain {depth : Nat} {s : List Char} (hs : ∀ c ∈ s, Plain c) :
    depthOver depth s = some depth := by
  induction s with
  | nil => rfl
  | cons c s ih =>
    have hc := hs c List.mem_cons_self
    rw [depthOver, if_neg fun h => hc.2.2 h.1, depthAfter_of_plain hc]
    exact ih fun d hd => hs d (List.mem_cons_of_mem c hd)

theorem plain_of_class {p : Char → Bool} {c : Char}
    (hp : p '<' = false ∧ p '(' = false ∧ p '>' = false ∧ p ')' = false ∧ p ',' = false)
    (h : p c = true) : Plain c := by
  have apart : ∀ {d}, p d = false → c ≠ d := by
    rintro d hd rfl
    rw [hd] at h
    cases h
  obtain ⟨less, left, greater, right, comma⟩ := hp
  refine ⟨?_, ?_, apart comma⟩
  · simpa [isOpener] using ⟨apart less, apart left⟩
  · simpa [isCloser] using ⟨apart greater, apart right⟩

theorem plain_of_isPathPart {c : Char} (h : Descriptor.isPathPart c = true) : Plain c :=
  plain_of_class (by decide) h

theorem plain_of_isBlank {c : Char} (h : isBlank c = true) : Plain c :=
  plain_of_class (by decide) h

-- ---------------------------------------------------------------------------
-- Pieces and commas
-- ---------------------------------------------------------------------------

theorem cutFrom_of_depthOver {depth offset : Nat} {piece : List Char}
    (h : depthOver depth piece = some 0) : cutFrom depth offset piece = .ok [piece] := by
  induction piece generalizing depth offset with
  | nil =>
    obtain rfl : depth = 0 := by simpa using h
    rfl
  | cons c piece ih =>
    rw [depthOver] at h
    split at h
    · cases h
    · next hcomma =>
      obtain ⟨after, hafter, hrest⟩ := Option.bind_eq_some_iff.1 h
      simp [cutFrom, hafter, ih hrest, hcomma]

theorem cutFrom_append_comma {depth offset : Nat} {piece rest : List Char}
    (h : depthOver depth piece = some 0) :
    cutFrom depth offset (piece ++ ',' :: rest) =
      (cutFrom 0 (offset + Text.size piece + 1) rest).map (piece :: ·) := by
  induction piece generalizing depth offset with
  | nil =>
    obtain rfl : depth = 0 := by simpa using h
    have hsize : offset + ','.utf8Size = offset + Text.size [] + 1 := rfl
    rw [List.nil_append, cutFrom, depthAfter_comma]
    simp only [hsize]
    cases cutFrom 0 (offset + Text.size [] + 1) rest <;> simp [Except.map]
  | cons c piece ih =>
    rw [depthOver] at h
    split at h
    · cases h
    · next hcomma =>
      obtain ⟨after, hafter, hrest⟩ := Option.bind_eq_some_iff.1 h
      have hsize : offset + c.utf8Size + Text.size piece = offset + Text.size (c :: piece) := by
        simp [Text.size, Nat.add_assoc]
      rw [List.cons_append, cutFrom, hafter]
      simp only [ih hrest, hsize]
      cases cutFrom 0 (offset + Text.size (c :: piece) + 1) rest <;> simp [Except.map, hcomma]

theorem cutFrom_pieces {depth offset : Nat} {s : List Char} {pieces : List (List Char)}
    (h : cutFrom depth offset s = .ok pieces) :
    ∃ first others, pieces = first :: others ∧ depthOver depth first = some 0 ∧
      (∀ piece ∈ others, depthOver 0 piece = some 0) ∧ s = [','].intercalate pieces := by
  fun_induction cutFrom depth offset s generalizing pieces with
  | case1 => cases h; exact ⟨[], [], rfl, rfl, by simp, rfl⟩
  | case2 | case3 | case4 => cases h
  | case5 depth offset c rest after hafter found hfound hcomma ih =>
    obtain ⟨first, others, rfl, hfirst, hothers, rfl⟩ := ih hfound
    cases h
    obtain ⟨rfl, rfl⟩ := hcomma
    obtain rfl : 0 = after := by simpa only [depthAfter_comma, Option.some.injEq] using hafter
    exact ⟨[], first :: others, rfl, rfl, by simpa using ⟨hfirst, hothers⟩, by simp⟩
  | case6 depth offset c rest after hafter found hfound hcomma ih =>
    obtain ⟨first, others, rfl, hfirst, hothers, rfl⟩ := ih hfound
    cases h
    refine ⟨c :: first, others, rfl, ?_, hothers, ?_⟩
    · rw [depthOver, if_neg hcomma, hafter]
      exact hfirst
    · cases others <;> simp [List.intercalate_cons_cons]

theorem cutFrom_intercalate {offset : Nat} {pieces : List (List Char)} (hne : pieces ≠ [])
    (h : ∀ piece ∈ pieces, depthOver 0 piece = some 0) :
    cutFrom 0 offset ([','].intercalate pieces) = .ok pieces := by
  induction pieces generalizing offset with
  | nil => exact absurd rfl hne
  | cons piece pieces ih =>
    have hpiece := h piece List.mem_cons_self
    cases pieces with
    | nil => simpa using cutFrom_of_depthOver hpiece
    | cons next pieces =>
      rw [List.intercalate_cons_cons, List.append_assoc, List.singleton_append,
        cutFrom_append_comma hpiece, ih (by simp) fun p hp => h p (List.mem_cons_of_mem _ hp)]
      rfl

/-- Cutting a text and putting the commas back are inverse to each other. -/
theorem cut_iff {s : List Char} {pieces : List (List Char)} :
    cut s = .ok pieces ↔ pieces ≠ [] ∧ (∀ piece ∈ pieces, depthOver 0 piece = some 0) ∧
      s = [','].intercalate pieces := by
  constructor
  · intro h
    obtain ⟨first, others, rfl, hfirst, hothers, hs⟩ := cutFrom_pieces h
    exact ⟨by simp, by simpa using ⟨hfirst, hothers⟩, hs⟩
  · rintro ⟨hne, hpieces, rfl⟩
    exact cutFrom_intercalate hne hpieces

-- ---------------------------------------------------------------------------
-- Blanks around the whole text
-- ---------------------------------------------------------------------------

theorem cutFrom_blank_append {depth offset : Nat} {blanks s : List Char} (hb : Blank blanks) :
    cutFrom depth offset (blanks ++ s) =
      (cutFrom depth (offset + Text.size blanks) s).map (·.modifyHead (blanks ++ ·)) := by
  induction blanks generalizing offset with
  | nil =>
    rw [List.nil_append, show offset + Text.size [] = offset from rfl]
    cases cutFrom depth offset s with
    | error fault => rfl
    | ok pieces => cases pieces <;> rfl
  | cons b blanks ih =>
    have hplain := plain_of_isBlank (hb b List.mem_cons_self)
    have hsize : offset + b.utf8Size + Text.size blanks = offset + Text.size (b :: blanks) := by
      simp [Text.size, Nat.add_assoc]
    rw [List.cons_append, cutFrom, depthAfter_of_plain hplain]
    simp only [ih fun c hc => hb c (List.mem_cons_of_mem b hc), hsize]
    cases cutFrom depth (offset + Text.size (b :: blanks)) s with
    | error fault => rfl
    | ok pieces =>
      simp only [Except.map, if_neg fun h : b = ',' ∧ depth = 0 => hplain.2.2 h.1,
        List.modifyHead_modifyHead]
      rfl

theorem modifyLast_cons {α : Type} {f : α → α} {a : α} {l : List α} (hne : l ≠ []) :
    (a :: l).modifyLast f = a :: l.modifyLast f :=
  List.modifyLast_append_of_right_ne_nil f [a] l hne

theorem cutFrom_append_blank {depth offset : Nat} {s blanks : List Char} (hb : Blank blanks) :
    cutFrom depth offset (s ++ blanks) =
      (cutFrom depth offset s).map (·.modifyLast (· ++ blanks)) := by
  induction s generalizing depth offset with
  | nil =>
    have hcut : cutFrom depth offset (blanks ++ []) = _ := cutFrom_blank_append hb
    rw [List.append_nil] at hcut
    rw [List.nil_append, hcut, cutFrom, cutFrom]
    split
    · show Except.ok [blanks ++ []] = Except.ok [[] ++ blanks]
      rw [List.append_nil, List.nil_append]
    · rfl
  | cons c s ih =>
    rw [List.cons_append, cutFrom, cutFrom]
    cases depthAfter depth c with
    | none => rfl
    | some after =>
      simp only [ih]
      cases hcut : cutFrom after (offset + c.utf8Size) s with
      | error fault => rfl
      | ok pieces =>
        obtain ⟨first, others, rfl⟩ := List.exists_cons_of_ne_nil (cutFrom_ne_nil hcut)
        simp only [Except.map]
        split
        · exact congrArg Except.ok (modifyLast_cons (List.cons_ne_nil _ _)).symm
        · cases others with
          | nil => rfl
          | cons next others =>
            simp only [modifyLast_cons (List.cons_ne_nil _ _), List.modifyHead_cons]

/-- Blanks around a text do not change what is left when it is trimmed. -/
theorem trim_blank_append_blank {before s after : List Char} (hb : Blank before)
    (ha : Blank after) : trim (before ++ s ++ after) = trim s := by
  obtain ⟨htrimmed, front, back, hfront, hback, hs⟩ := Text.trim_eq_iff.1 (rfl : trim s = trim s)
  refine Text.trim_eq_iff.2 ⟨htrimmed, before ++ front, back ++ after, hb.append hfront,
    hback.append ha, ?_⟩
  simpa using congrArg (before ++ · ++ after) hs

theorem map_trim_modifyHead {blanks : List Char} {pieces : List (List Char)}
    (hb : Blank blanks) : (pieces.modifyHead (blanks ++ ·)).map trim = pieces.map trim := by
  cases pieces with
  | nil => rfl
  | cons first others =>
    have := trim_blank_append_blank (s := first) hb .nil
    rw [List.append_nil] at this
    rw [List.modifyHead_cons, List.map_cons, List.map_cons, this]

theorem map_trim_modifyLast {blanks : List Char} {pieces : List (List Char)}
    (hb : Blank blanks) : (pieces.modifyLast (· ++ blanks)).map trim = pieces.map trim := by
  rcases List.eq_nil_or_concat pieces with rfl | ⟨others, last, rfl⟩
  · rfl
  · have := trim_blank_append_blank (s := last) .nil hb
    rw [List.nil_append] at this
    rw [List.concat_eq_append, List.modifyLast_concat, List.map_append, List.map_append,
      List.map_singleton, List.map_singleton, this]

/-- Offsets stand in faults only. -/
theorem cutFrom_offset {offset : Nat} {s : List Char} {pieces : List (List Char)} :
    cutFrom 0 offset s = .ok pieces ↔ cut s = .ok pieces := by
  constructor
  · intro h
    obtain ⟨first, others, rfl, hfirst, hothers, rfl⟩ := cutFrom_pieces h
    exact cutFrom_intercalate (by simp) (by simpa using ⟨hfirst, hothers⟩)
  · intro h
    obtain ⟨hne, hpieces, rfl⟩ := cut_iff.1 h
    exact cutFrom_intercalate hne hpieces

theorem cut_padded {before s after : List Char} (hb : Blank before) (ha : Blank after)
    {pieces : List (List Char)} : cut (before ++ s ++ after) = .ok pieces ↔
      ∃ found, cut s = .ok found ∧
        pieces = (found.modifyLast (· ++ after)).modifyHead (before ++ ·) := by
  rw [cut, List.append_assoc, cutFrom_blank_append hb, cutFrom_append_blank ha]
  cases hcut : cutFrom 0 (0 + Text.size before) s with
  | error fault =>
    simp only [Except.map, reduceCtorEq, false_iff, not_exists, not_and]
    intro found hfound
    rw [cutFrom_offset.2 hfound] at hcut
    cases hcut
  | ok found =>
    rw [cutFrom_offset.1 hcut]
    simp [Except.map, eq_comm]

/-- Trimming a text before it is cut changes the pieces by blanks only. -/
theorem cut_trim_iff {s : List Char} {texts : List (List Char)} :
    (∃ pieces, cut (trim s) = .ok pieces ∧ pieces.map trim = texts) ↔
      ∃ pieces, cut s = .ok pieces ∧ pieces.map trim = texts := by
  obtain ⟨-, before, after, hb, ha, hs⟩ := Text.trim_eq_iff.1 (rfl : trim s = trim s)
  constructor
  · rintro ⟨pieces, hcut, rfl⟩
    have whole := (cut_padded hb ha).2 ⟨pieces, hcut, rfl⟩
    rw [← hs] at whole
    exact ⟨_, whole, by rw [map_trim_modifyHead hb, map_trim_modifyLast ha]⟩
  · rintro ⟨pieces, hcut, rfl⟩
    rw [hs] at hcut
    obtain ⟨found, hfound, rfl⟩ := (cut_padded hb ha).1 hcut
    exact ⟨found, hfound, by rw [map_trim_modifyHead hb, map_trim_modifyLast ha]⟩

end NodeSchema.FieldList
