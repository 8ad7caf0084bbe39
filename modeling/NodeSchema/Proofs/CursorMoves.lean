import NodeSchema.Descriptor.Walk
import NodeSchema.Proofs.DescriptorReading
/-!
# How a reading by positions moves

A cursor stands in a text where its characters so far take as many bytes as the position says
(`Before`). From such a place a reading can look at the text, and whatever it does leads to such a
place again, never backwards (`Moves`). So each of the small readings ends and does to the cursor
what its counterpart does to the rest of the text.

A reading that looks for a character in vain has gone over blanks, which its counterpart has not.
So the two are compared blanks aside (`Near`).
-/

namespace NodeSchema.Descriptor

open Text (Blank isBlank skipBlanks size)

variable {text : List Char} {α β : Type}

-- ---------------------------------------------------------------------------
-- Places in a text
-- ---------------------------------------------------------------------------

/-- The rest of the text from the position on is `s`. -/
def Before (text : List Char) (position : Nat) (s : List Char) : Prop :=
  ∃ front, text = front ++ s ∧ position = size front

/-- The rest of the text from the position on is `s`, blanks aside. -/
def Near (text : List Char) (position : Nat) (s : List Char) : Prop :=
  ∃ t, Before text position t ∧ skipBlanks t = skipBlanks s

/-- The position is behind the character, which stands at the start or later, with `s` after it. -/
def Passed (text : List Char) (start : Nat) (c : Char) (position : Nat) (s : List Char) : Prop :=
  ∃ front, text = front ++ c :: s ∧ start ≤ size front ∧ position = size (front ++ [c])

/-- Since the start a bracket that opens or a comma has been passed, and nothing but blanks after
it. -/
def Behind (text : List Char) (start position : Nat) : Prop :=
  ∃ front c blanks s, (c = '(' ∨ c = '<' ∨ c = ',') ∧ Blank blanks ∧
    text = front ++ c :: (blanks ++ s) ∧ start ≤ size front ∧ position = size (front ++ c :: blanks)

section
variable {position start : Nat} {c : Char} {s t blanks : List Char}

theorem Before.move (h : Before text position (s ++ t)) : Before text (position + size s) t := by
  obtain ⟨front, rfl, rfl⟩ := h
  exact ⟨front ++ s, by rw [List.append_assoc], by rw [Text.size_append]⟩

theorem Before.le_size (h : Before text position s) : position ≤ size text := by
  obtain ⟨front, rfl, rfl⟩ := h
  rw [Text.size_append]
  exact Nat.le_add_right _ _

theorem Before.length_le (h : Before text position s) : s.length ≤ text.length := by
  obtain ⟨front, rfl, -⟩ := h
  rw [List.length_append]
  exact Nat.le_add_left _ _

/-- A text is not cut out of place where its characters so far end. -/
theorem Before.drop? (h : Before text position s) : Text.drop? text position = some s := by
  obtain ⟨front, rfl, rfl⟩ := h
  exact Text.drop?_append_size front s

theorem Before.slice? (h : Before text position (s ++ t)) :
    Text.slice? text position (position + size s) = some s := by
  rw [Text.slice?, h.drop?, Option.bind_some, Nat.add_sub_cancel_left, Text.take?_append_size]

theorem size_pos (h : s ≠ []) : 0 < size s := by
  obtain ⟨c, rest, rfl⟩ := List.exists_cons_of_ne_nil h
  exact Nat.add_pos_left c.utf8Size_pos _

theorem Before.eq_size_iff (h : Before text position s) : position = size text ↔ s = [] := by
  obtain ⟨front, rfl, rfl⟩ := h
  rw [Text.size_append]
  cases s with
  | nil => simp [size]
  | cons c s =>
    have := size_pos (List.cons_ne_nil c s)
    simp only [reduceCtorEq, iff_false]
    omega

theorem Before.near (h : Before text position s) : Near text position s := ⟨s, h, rfl⟩

theorem Before.near_of_skipBlanks (h : Before text position (skipBlanks s)) :
    Near text position s := by
  have hskip : skipBlanks ([] ++ skipBlanks s) = skipBlanks s :=
    Text.skipBlanks_append (fun c hc => nomatch hc) fun c hc => Text.head?_skipBlanks hc
  exact ⟨skipBlanks s, h, hskip⟩

theorem Before.skipBlanks (h : Before text position s) :
    Before text (position + size (s.takeWhile isBlank)) (Text.skipBlanks s) :=
  Before.move (by rwa [Text.takeWhile_append_skipBlanks])

theorem Passed.before (h : Passed text start c position s) : Before text position s := by
  obtain ⟨front, rfl, -, rfl⟩ := h
  exact ⟨front ++ [c], by rw [List.append_assoc, List.singleton_append], rfl⟩

theorem Passed.lt (h : Passed text start c position s) : start < position := by
  obtain ⟨front, -, hle, rfl⟩ := h
  have := size_pos (List.cons_ne_nil c [])
  rw [Text.size_append]
  omega

theorem Behind.lt (h : Behind text start position) : start < position := by
  obtain ⟨front, c, blanks, s, -, -, -, hle, rfl⟩ := h
  have := size_pos (List.cons_ne_nil c blanks)
  rw [Text.size_append]
  omega

theorem Passed.behind_blanks (h : Passed text start c position (blanks ++ s))
    (hc : c = '(' ∨ c = '<' ∨ c = ',') (hb : Blank blanks) {earlier : Nat} (hle : earlier ≤ start) :
    Behind text earlier (position + size blanks) := by
  obtain ⟨front, htext, hstart, rfl⟩ := h
  refine ⟨front, c, blanks, s, hc, hb, htext, hle.trans hstart, ?_⟩
  rw [← Text.size_append, List.append_assoc, List.singleton_append]

theorem Passed.behind (h : Passed text start c position s) (hc : c = '(' ∨ c = '<' ∨ c = ',')
    {earlier : Nat} (hle : earlier ≤ start) : Behind text earlier position := by
  have hnone : Passed text start c position ([] ++ s) := h
  exact hnone.behind_blanks hc (fun _ hd => nomatch hd) hle

end

-- ---------------------------------------------------------------------------
-- Moves
-- ---------------------------------------------------------------------------

def Step.position : Step → Nat
  | .cut position | .enter _ _ position | .leave _ _ position => position

/-- A call that begins has something behind it that the calls around it have passed; one that ends
has not gone backwards, and one for one descriptor has passed something. -/
def Step.Advances (text : List Char) : Step → Prop
  | .cut _ => True
  | .enter _ outer position => ∀ start ∈ outer, Behind text start position
  | .leave call start position => start ≤ position ∧ (call = .one → start < position)

/-- The positions on the way of a cursor, the last one at the end. -/
def Cursor.positions (cursor : Cursor) : List Nat :=
  cursor.trail.map Step.position ++ [cursor.position]

/-- The cursor has come from here to there by steps in order, each of them in its place. -/
structure Moves (text : List Char) (a b : Cursor) : Prop where
  le : a.position ≤ b.position
  place : (∃ s, Before text a.position s) → ∃ s, Before text b.position s
  trail : ∃ steps, b.trail = a.trail ++ steps ∧ (steps.map Step.position).Pairwise (· ≤ ·) ∧
    ∀ step ∈ steps, a.position ≤ step.position ∧ step.position ≤ b.position ∧
      (∃ s, Before text step.position s) ∧ step.Advances text

theorem Moves.refl (text : List Char) (a : Cursor) : Moves text a a :=
  ⟨Nat.le_refl _, id, [], by simp⟩

theorem Moves.trans {a b c : Cursor} (hab : Moves text a b) (hbc : Moves text b c) :
    Moves text a c := by
  obtain ⟨hle, hplace, steps, htrail, hsorted, hsteps⟩ := hab
  obtain ⟨hle', hplace', later, htrail', hsorted', hlater⟩ := hbc
  refine ⟨hle.trans hle', hplace' ∘ hplace, steps ++ later,
    by rw [htrail', htrail, List.append_assoc], ?_, ?_⟩
  · rw [List.map_append, List.pairwise_append]
    refine ⟨hsorted, hsorted', fun p hp q hq => ?_⟩
    obtain ⟨step, hstep, rfl⟩ := List.mem_map.1 hp
    obtain ⟨other, hother, rfl⟩ := List.mem_map.1 hq
    exact (hsteps step hstep).2.1.trans (hlater other hother).1
  · intro step hstep
    rcases List.mem_append.1 hstep with hstep | hstep
    · obtain ⟨hlow, hhigh, hstep⟩ := hsteps step hstep
      exact ⟨hlow, hhigh.trans hle', hstep⟩
    · obtain ⟨hlow, hhigh, hstep⟩ := hlater step hstep
      exact ⟨hle.trans hlow, hhigh, hstep⟩

/-- The reading ends with the result, and has moved the cursor from here to there. -/
structure Runs (text : List Char) (x : Walk α) (a : Cursor) (result : Except Halt α) (b : Cursor) :
    Prop where
  run : x.run.run a = some (result, b)
  moves : Moves text a b

section
variable {x : Walk α} {f : α → Walk β} {a b c : Cursor} {s : List Char}

theorem Runs.pure (v : α) : Runs text (pure v) a (.ok v) a := ⟨rfl, Moves.refl text a⟩

theorem Runs.throw (halt : Halt) : Runs text (throw halt : Walk α) a (.error halt) a :=
  ⟨rfl, Moves.refl text a⟩

theorem Runs.get : Runs text (get : Walk Cursor) a (.ok a) a := ⟨rfl, Moves.refl text a⟩

theorem Runs.bind {v : α} {result : Except Halt β} (hx : Runs text x a (.ok v) b)
    (hf : Runs text (f v) b result c) : Runs text (x >>= f) a result c := by
  refine ⟨?_, hx.moves.trans hf.moves⟩
  rw [ExceptT.run_bind, StateT.run_bind, hx.run]
  exact hf.run

theorem Runs.bind_error {halt : Halt} (hx : Runs text x a (.error halt) b) :
    Runs text (x >>= f) a (.error halt) b := by
  refine ⟨?_, hx.moves⟩
  rw [ExceptT.run_bind, StateT.run_bind, hx.run]
  rfl

-- ---------------------------------------------------------------------------
-- Small readings
-- ---------------------------------------------------------------------------

theorem record_runs {step : Nat → Step} (hstep : (step a.position).position = a.position)
    (h : Before text a.position s) (hadvances : (step a.position).Advances text) :
    Runs text (Walk.record step) a (.ok ()) ⟨a.position, a.trail ++ [step a.position]⟩ := by
  refine ⟨rfl, Nat.le_refl _, id, [step a.position], rfl, List.pairwise_singleton _ _, ?_⟩
  intro other hother
  obtain rfl := List.mem_singleton.1 hother
  exact ⟨hstep.ge, hstep.le, ⟨s, hstep.symm ▸ h⟩, hadvances⟩

theorem cut_runs (h : Before text a.position s) :
    Runs text (Walk.record .cut) a (.ok ()) ⟨a.position, a.trail ++ [.cut a.position]⟩ :=
  record_runs rfl h trivial

theorem rest_runs (h : Before text a.position s) :
    ∃ b, Runs text (Walk.rest text) a (.ok s) b ∧ b.position = a.position := by
  refine ⟨⟨a.position, a.trail ++ [.cut a.position]⟩, (cut_runs h).bind (Runs.get.bind ?_), rfl⟩
  dsimp only
  rw [h.drop?]
  exact .pure s

theorem since_runs {start : Nat} {t : List Char} (h : Before text start (s ++ t))
    (hposition : a.position = start + size s) :
    ∃ b, Runs text (Walk.since text start) a (.ok s) b ∧ b.position = a.position := by
  refine ⟨⟨a.position, a.trail ++ [.cut a.position]⟩,
    (cut_runs (hposition ▸ h.move)).bind (Runs.get.bind ?_), rfl⟩
  dsimp only
  rw [hposition, h.slice?]
  exact .pure s

theorem peek_runs (h : Before text a.position s) :
    ∃ b, Runs text (Walk.peek text) a (.ok s.head?) b ∧ b.position = a.position := by
  obtain ⟨b, hrest, hposition⟩ := rest_runs h
  exact ⟨b, hrest.bind (.pure _), hposition⟩

theorem pass_runs {c : Char} (h : Before text a.position (c :: s)) :
    Runs text (Walk.pass c) a (.ok ()) ⟨a.position + c.utf8Size, a.trail⟩ :=
  ⟨rfl, Nat.le_add_right _ _, fun _ => ⟨s, h.move (s := [c])⟩, [], by simp⟩

/-- Going over the characters of a class ends, for each of them is one less to come. -/
theorem passWhile_runs {p : Char → Bool} {limit : Nat} (h : Before text a.position s)
    (hlimit : s.length < limit) :
    ∃ b, Runs text (Walk.passWhile p text limit) a (.ok ()) b ∧
      b.position = a.position + size (s.takeWhile p) := by
  induction limit generalizing s a with
  | zero => exact absurd hlimit (Nat.not_lt_zero _)
  | succ limit ih =>
    obtain ⟨b, hpeek, hposition⟩ := peek_runs h
    rw [← hposition] at h ⊢
    rw [Walk.passWhile]
    cases s with
    | nil => exact ⟨b, hpeek.bind (.pure ()), rfl⟩
    | cons c s =>
      cases hc : p c with
      | false =>
        refine ⟨b, hpeek.bind ?_, by simp [hc, size]⟩
        simp only [List.head?_cons, hc]
        exact .pure ()
      | true =>
        have hmoved : Before text (b.position + c.utf8Size) s := h.move (s := [c])
        obtain ⟨d, hothers, hlast⟩ :=
          ih (a := ⟨b.position + c.utf8Size, b.trail⟩) hmoved (Nat.lt_of_succ_lt_succ hlimit)
        refine ⟨d, hpeek.bind ?_, ?_⟩
        · simp only [List.head?_cons, hc]
          exact (pass_runs h).bind hothers
        · rw [hlast, List.takeWhile_cons_of_pos hc, size, Nat.add_assoc]

theorem passBlanks_runs {limit : Nat} (hlimit : text.length < limit) (h : Near text a.position s) :
    ∃ b, Runs text (Walk.passWhile isBlank text limit) a (.ok ()) b ∧
      Before text b.position (skipBlanks s) := by
  obtain ⟨t, hbefore, hskip⟩ := h
  obtain ⟨b, hpass, hposition⟩ :=
    passWhile_runs (p := isBlank) hbefore (hbefore.length_le.trans_lt hlimit)
  refine ⟨b, hpass, ?_⟩
  rw [hposition, ← hskip]
  exact hbefore.skipBlanks

end

end NodeSchema.Descriptor
