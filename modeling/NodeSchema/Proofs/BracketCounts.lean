import Mathlib.Logic.Basic
import Mathlib.Tactic.SplitIfs
import NodeSchema.Proofs.Cutting
/-!
# Cutting by counting brackets

What the cut of a field list does, told by counts of brackets alone. A text is cut exactly if
it is balanced, and its pieces are the only texts without a comma to cut at that give it when
they are joined. Otherwise it is cut short at the first bracket that closes more than was
opened, or it ends with brackets open.

Depths are natural numbers without a limit. A program that counts them in 32 bits with a sign
agrees as long as fewer than 2^31 brackets are open at a time, and the results are about it for
such texts only.
-/

namespace NodeSchema.FieldList

def openers (s : List Char) : Nat := s.countP isOpener

def closers (s : List Char) : Nat := s.countP isCloser

/-- As many brackets close as open, and none closes before it was opened. -/
def Balanced (s : List Char) : Prop :=
  (∀ front, front <+: s → closers front ≤ openers front) ∧ closers s = openers s

/-- A balanced text without a comma outside all brackets: what stands before such a comma
is not balanced. -/
def Piece (s : List Char) : Prop :=
  Balanced s ∧ ∀ front rest, s = front ++ ',' :: rest → ¬ Balanced front

/-- How many brackets are open after a text, where `depth` are open before it. There is no
answer if a bracket closes that is not open. Commas do not count. -/
def openAfter (depth : Nat) (s : List Char) : Option Nat := s.foldlM depthAfter depth

@[simp] theorem openAfter_nil {depth : Nat} : openAfter depth [] = some depth := rfl

theorem openAfter_cons {depth : Nat} {c : Char} {s : List Char} :
    openAfter depth (c :: s) = (depthAfter depth c).bind fun after => openAfter after s := rfl

-- ---------------------------------------------------------------------------
-- Depths and counts
-- ---------------------------------------------------------------------------

theorem openers_append (s t : List Char) : openers (s ++ t) = openers s + openers t :=
  List.countP_append

theorem closers_append (s t : List Char) : closers (s ++ t) = closers s + closers t :=
  List.countP_append

theorem openers_cons (c : Char) (s : List Char) : openers (c :: s) = openers [c] + openers s :=
  openers_append [c] s

theorem closers_cons (c : Char) (s : List Char) : closers (c :: s) = closers [c] + closers s :=
  closers_append [c] s

theorem depthAfter_eq_some_iff {depth after : Nat} {c : Char} :
    depthAfter depth c = some after ↔ after + closers [c] = depth + openers [c] := by
  unfold depthAfter
  cases hopen : isOpener c with
  | true => simp [openers, closers, hopen, isCloser_of_isOpener hopen, eq_comm]
  | false =>
    cases hclose : isCloser c with
    | false => simp [openers, closers, hopen, hclose, eq_comm]
    | true => cases depth <;> simp [openers, closers, hopen, hclose, eq_comm]

theorem depthAfter_eq_none_iff {depth : Nat} {c : Char} :
    depthAfter depth c = none ↔ depth + openers [c] < closers [c] := by
  rw [Option.eq_none_iff_forall_ne_some]
  simp only [ne_eq, depthAfter_eq_some_iff]
  constructor
  · intro h
    exact Nat.lt_of_not_le fun hle =>
      h (depth + openers [c] - closers [c]) (Nat.sub_add_cancel hle)
  · intro h after
    omega

/-- The depth is what the counts leave, as long as no part from the start closes too much. -/
theorem openAfter_eq_some_iff {depth after : Nat} {s : List Char} :
    openAfter depth s = some after ↔
      (∀ front, front <+: s → closers front ≤ depth + openers front) ∧
        after + closers s = depth + openers s := by
  induction s generalizing depth with
  | nil => simp [openers, closers, eq_comm]
  | cons c s ih =>
    simp only [openAfter_cons, Option.bind_eq_some_iff, depthAfter_eq_some_iff, ih]
    constructor
    · rintro ⟨between, hc, hfronts, hs⟩
      refine ⟨fun front hfront => ?_, ?_⟩
      · rcases List.prefix_cons_iff.1 hfront with rfl | ⟨t, rfl, ht⟩
        · simp [closers]
        · have := hfronts t ht
          rw [closers_cons, openers_cons]
          omega
      · rw [closers_cons, openers_cons]
        omega
    · rintro ⟨hfronts, hs⟩
      have hc := hfronts [c] (by simp)
      refine ⟨depth + openers [c] - closers [c], by omega, fun front hfront => ?_, ?_⟩
      · have := hfronts (c :: front) (by simpa using hfront)
        rw [closers_cons, openers_cons] at this
        omega
      · rw [closers_cons, openers_cons] at hs
        omega

theorem balanced_iff_openAfter {s : List Char} : Balanced s ↔ openAfter 0 s = some 0 := by
  simp [Balanced, openAfter_eq_some_iff]

-- ---------------------------------------------------------------------------
-- What the cut comes to
-- ---------------------------------------------------------------------------

theorem cutFrom_cons_error_iff {depth after offset : Nat} {c : Char} {s : List Char}
    {fault : Fault} (h : depthAfter depth c = some after) :
    cutFrom depth offset (c :: s) = .error fault ↔
      cutFrom after (offset + c.utf8Size) s = .error fault := by
  simp only [cutFrom, h]
  cases cutFrom after (offset + c.utf8Size) s with
  | error fault => simp
  | ok pieces => split_ifs <;> simp

theorem cutFrom_unbalanced_iff {depth offset : Nat} {s : List Char} :
    cutFrom depth offset s = .error .unbalanced ↔
      ∃ after, openAfter depth s = some after ∧ after ≠ 0 := by
  induction s generalizing depth offset with
  | nil => cases depth <;> simp [cutFrom]
  | cons c s ih =>
    rw [openAfter_cons]
    cases hc : depthAfter depth c with
    | none => simp [cutFrom, hc]
    | some between => rw [cutFrom_cons_error_iff hc, ih, Option.bind_some]

/-- The offset of a stray bracket counts the bytes before it. -/
theorem cutFrom_stray_iff {depth offset place : Nat} {s : List Char} {closer : Char} :
    cutFrom depth offset s = .error (.stray closer place) ↔ ∃ front rest last,
      s = front ++ closer :: rest ∧ place = offset + Text.size front ∧
        openAfter depth front = some last ∧ depthAfter last closer = none := by
  induction s generalizing depth offset with
  | nil => cases depth <;> simp [cutFrom]
  | cons c s ih =>
    simp only [List.cons_eq_append_iff]
    cases hc : depthAfter depth c with
    | none =>
      -- The character itself is the bracket: nothing that starts with it has a depth.
      constructor
      · intro h
        simp only [cutFrom, hc, Except.error.injEq, Fault.stray.injEq] at h
        obtain ⟨rfl, rfl⟩ := h
        exact ⟨[], s, depth, .inl ⟨rfl, rfl⟩, rfl, rfl, hc⟩
      · rintro ⟨front, rest, last, ⟨rfl, heq⟩ | ⟨front, rfl, rfl⟩, rfl, hlast, hstray⟩
        · cases heq
          simp [cutFrom, hc]
        · simp [openAfter_cons, hc] at hlast
    | some between =>
      rw [cutFrom_cons_error_iff hc, ih]
      constructor
      · rintro ⟨front, rest, last, rfl, rfl, hlast, hstray⟩
        refine ⟨c :: front, rest, last, .inr ⟨front, rfl, rfl⟩, ?_, ?_, hstray⟩
        · simp [Text.size, Nat.add_assoc]
        · rwa [openAfter_cons, hc]
      · rintro ⟨front, rest, last, ⟨rfl, heq⟩ | ⟨front, rfl, rfl⟩, rfl, hlast, hstray⟩
        · cases heq
          cases hlast
          rw [hc] at hstray
          cases hstray
        · rw [openAfter_cons, hc] at hlast
          exact ⟨front, rest, last, rfl, by simp [Text.size, Nat.add_assoc], hlast, hstray⟩

theorem exists_cutFrom_iff {depth offset : Nat} {s : List Char} :
    (∃ pieces, cutFrom depth offset s = .ok pieces) ↔ openAfter depth s = some 0 := by
  induction s generalizing depth offset with
  | nil => cases depth <;> simp [cutFrom]
  | cons c s ih =>
    rw [openAfter_cons]
    cases hc : depthAfter depth c with
    | none => simp [cutFrom, hc]
    | some between =>
      rw [Option.bind_some, ← @ih between (offset + c.utf8Size)]
      simp only [cutFrom, hc]
      cases cutFrom between (offset + c.utf8Size) s with
      | error fault => simp
      | ok pieces => split_ifs <;> simp

-- ---------------------------------------------------------------------------
-- Single pieces
-- ---------------------------------------------------------------------------

/-- The depth over a piece is the depth after it, unless a comma is met outside all brackets. -/
theorem depthOver_eq_some_iff {depth after : Nat} {s : List Char} :
    depthOver depth s = some after ↔ openAfter depth s = some after ∧
      ∀ front rest, s = front ++ ',' :: rest → openAfter depth front ≠ some 0 := by
  induction s generalizing depth with
  | nil => simp
  | cons c s ih =>
    simp only [List.cons_eq_append_iff, openAfter_cons]
    rw [depthOver]
    split_ifs with hcomma
    · obtain ⟨rfl, rfl⟩ := hcomma
      simp only [false_iff, not_and, not_forall, not_not]
      exact fun _ => ⟨[], s, .inl ⟨rfl, rfl⟩, rfl⟩
    · simp only [Option.bind_eq_some_iff, ih]
      constructor
      · rintro ⟨between, hc, hs, hcommas⟩
        refine ⟨⟨between, hc, hs⟩, ?_⟩
        rintro front rest (⟨rfl, heq⟩ | ⟨front, rfl, rfl⟩) hfront
        · cases heq
          exact hcomma ⟨rfl, by simpa using hfront⟩
        · rw [openAfter_cons, hc] at hfront
          exact hcommas front rest rfl hfront
      · rintro ⟨⟨between, hc, hs⟩, hcommas⟩
        refine ⟨between, hc, hs, fun front rest heq hfront => ?_⟩
        refine hcommas (c :: front) rest (.inr ⟨front, rfl, heq⟩) ?_
        rwa [openAfter_cons, hc]

theorem piece_iff_depthOver {s : List Char} : Piece s ↔ depthOver 0 s = some 0 := by
  simp [Piece, balanced_iff_openAfter, depthOver_eq_some_iff]

theorem cut_singleton_iff {s : List Char} : cut s = .ok [s] ↔ depthOver 0 s = some 0 := by
  simp [cut_iff]

/-- A text is cut exactly if it is balanced. Its pieces are the one list of texts that are not
cut any further, which means that they are balanced without a comma outside their brackets, and
that give the text when they are joined. A text that is not cut has a first bracket that closes
more than was opened, and this is the one reported, or its end has brackets open. -/
theorem cut_exact (s : List Char) :
    ((∃ pieces, cut s = .ok pieces) ↔ Balanced s) ∧
    (∀ pieces, cut s = .ok pieces ↔ pieces ≠ [] ∧
      (∀ piece ∈ pieces, cut piece = .ok [piece]) ∧ [','].intercalate pieces = s) ∧
    (∀ piece, cut piece = .ok [piece] ↔ Piece piece) ∧
    (∀ closer offset, cut s = .error (.stray closer offset) ↔ ∃ front rest,
      s = front ++ closer :: rest ∧ offset = (String.ofList front).utf8ByteSize ∧
        (∀ start, start <+: front → closers start ≤ openers start) ∧
        openers (front ++ [closer]) < closers (front ++ [closer])) ∧
    (cut s = .error .unbalanced ↔
      (∀ front, front <+: s → closers front ≤ openers front) ∧ closers s ≠ openers s) := by
  refine ⟨?_, fun pieces => ?_, fun piece => ?_, fun closer offset => ?_, ?_⟩
  · rw [balanced_iff_openAfter]
    exact exists_cutFrom_iff
  · rw [cut_iff, eq_comm (a := s)]
    simp only [cut_singleton_iff]
  · rw [cut_singleton_iff, piece_iff_depthOver]
  · simp only [cut, cutFrom_stray_iff, openAfter_eq_some_iff, depthAfter_eq_none_iff,
      ← Text.size_eq_utf8ByteSize, openers_append, closers_append, Nat.zero_add]
    constructor
    · rintro ⟨front, rest, last, heq, hoffset, ⟨hfront, hcounts⟩, hstray⟩
      exact ⟨front, rest, heq, hoffset, hfront, by omega⟩
    · rintro ⟨front, rest, heq, hoffset, hfront, hstray⟩
      have := hfront front List.prefix_rfl
      exact ⟨front, rest, openers front - closers front, heq, hoffset, ⟨hfront, by omega⟩,
        by omega⟩
  · simp only [cut, cutFrom_unbalanced_iff, openAfter_eq_some_iff, Nat.zero_add]
    constructor
    · rintro ⟨after, ⟨hfronts, hcounts⟩, hopen⟩
      exact ⟨hfronts, by omega⟩
    · rintro ⟨hfronts, hcounts⟩
      have := hfronts s List.prefix_rfl
      exact ⟨openers s - closers s, ⟨hfronts, by omega⟩, by omega⟩

-- Kinds are not told apart, and the offset counts bytes: the first character has two.
example : cut "é<A,B),C".toList = .ok ["é<A,B)".toList, "C".toList] ∧
    cut "é,A)(".toList = .error (.stray ')' 4) := ⟨rfl, rfl⟩

end NodeSchema.FieldList
