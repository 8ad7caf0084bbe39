import NodeSchema.Proofs.DescriptorReading
/-!
# Text behind a descriptor

A text that goes on behind a descriptor is refused with what is left of it, from the first
character that is no blank. What stands before this is the longest start of the text that is
read: a longer start is refused for what it has behind the same descriptor.

The readers look one character ahead, past blanks, and never further. So what they take off the
front of a text does not depend on the rest of it beyond this character.
-/

namespace NodeSchema.Descriptor

open Text (Blank isBlank skipBlanks)

-- ---------------------------------------------------------------------------
-- What a reader looks at
-- ---------------------------------------------------------------------------

/-- Tokens are found again whatever follows them. -/
theorem Leads.exists_front {ts : List Token} {s rest : List Char} (h : Leads ts s rest) :
    ∃ front, s = front ++ rest ∧ ∀ other, Leads ts (front ++ other) other := by
  induction h with
  | done => exact ⟨[], rfl, fun _ => .done⟩
  | @token t ts blanks s rest hb _ ih =>
    obtain ⟨front, rfl, hother⟩ := ih
    refine ⟨blanks ++ t.spelling ++ front, by simp, fun other => ?_⟩
    rw [List.append_assoc]
    exact .token hb (hother other)

/-- Whether a descriptor ends depends on the next character, and on the next one that is no
blank. -/
theorem EndsBefore.of_head_eq {d : Descriptor} {rest other : List Char} (h : d.EndsBefore rest)
    (hhead : other.head? = rest.head?)
    (hskip : (skipBlanks other).head? = (skipBlanks rest).head?) : d.EndsBefore other := by
  cases d with
  | name path => exact ⟨fun c hc => h.1 c (hhead ▸ hc), hskip ▸ h.2⟩
  | _ => trivial

-- ---------------------------------------------------------------------------
-- Faults within a descriptor
-- ---------------------------------------------------------------------------

theorem readPath_ne_trailing {s : List Char} {rest : String} :
    readPath s ≠ .error (.trailing rest) := by
  intro h
  rw [readPath] at h
  split at h
  · cases h
  · split at h <;> cases h

mutual
/-- Text that is left over is no fault of a descriptor, but of the text that it stands in. -/
theorem readOne_ne_trailing {s : List Char} {rest : String} :
    readOne s ≠ .error (.trailing rest) := by
  intro h
  have hread := oneRead_readOne s
  rw [h] at hread
  cases hread with
  | noPath hpath => exact readPath_ne_trailing hpath
  | within hshorter hmany => exact readMany_ne_trailing hmany
termination_by 2 * s.length

theorem readMany_ne_trailing {s : List Char} {rest : String} :
    readMany s ≠ .error (.trailing rest) := by
  intro h
  have hread := manyRead_readMany s
  rw [h] at hread
  cases hread with
  | noFirst hone => exact readOne_ne_trailing hone
  | noOthers hshorter hmany => exact readMany_ne_trailing hmany
termination_by 2 * s.length + 1
end

theorem read_trailing_iff {text : List Char} {rest : String} :
    read text = .error (.trailing rest) ↔ ∃ taken, readOne text = .ok taken ∧
      skipBlanks taken.rest = rest.toList ∧ rest.toList ≠ [] := by
  rw [read]
  cases hone : readOne text with
  | error fault =>
    simp only [reduceCtorEq, false_and, exists_false, iff_false, Except.error.injEq]
    rintro rfl
    exact readOne_ne_trailing hone
  | ok taken =>
    simp only [Except.ok.injEq, exists_eq_left']
    cases hskip : skipBlanks taken.rest with
    | nil =>
      simp only [reduceCtorEq, false_iff, not_and, not_not]
      exact fun h => h.symm
    | cons c r =>
      simp only [Except.error.injEq, Fault.trailing.injEq, ← String.toList_inj,
        String.toList_ofList]
      exact ⟨fun h => ⟨h, h ▸ List.cons_ne_nil c r⟩, fun h => h.1⟩

-- ---------------------------------------------------------------------------
-- The longest start that is read
-- ---------------------------------------------------------------------------

section
variable {d : Descriptor} {front blanks : List Char}

/-- The tokens of a descriptor and blanks are read as the descriptor. -/
theorem read_append_blanks (hw : d.WellFormed) (hfront : Leads d.tokens (front ++ blanks) blanks)
    (hb : Blank blanks) : read (front ++ blanks) = .ok d :=
  read_of_spells hw (spells_iff_leads.2 ⟨blanks, hfront, hb⟩)

/-- What stands behind the descriptor is left over, as long as it starts with the character that
ended the descriptor. -/
theorem read_append_of_endsBefore {c : Char} {later r : List Char} (hw : d.WellFormed)
    (hfront : ∀ other, Leads d.tokens (front ++ other) other) (hb : Blank blanks)
    (hc : isBlank c = false) (hend : d.EndsBefore (blanks ++ c :: later)) :
    read (front ++ (blanks ++ c :: r)) = .error (.trailing (String.ofList (c :: r))) := by
  have hskip (tail : List Char) : skipBlanks (blanks ++ c :: tail) = c :: tail :=
    (skipBlanks_eq_cons_iff hc).2 ⟨blanks, hb, rfl⟩
  have hends : d.EndsBefore (blanks ++ c :: r) :=
    hend.of_head_eq (by simp [List.head?_append]) (by rw [hskip, hskip]; rfl)
  obtain ⟨hlt, hone⟩ := readOne_complete d hw (hfront _) hends
  refine read_trailing_iff.2 ⟨_, hone, ?_, ?_⟩
  · rw [String.toList_ofList]
    exact hskip r
  · simp

end

/-- Where text is left over, it starts with a character that is no blank, and what stands before
it is the longest start of the whole text that is read. A longer start has text left over behind
the same descriptor. -/
theorem read_trailing_longest {text : List Char} {rest : String}
    (h : read text = .error (.trailing rest)) :
    ∃ front d, text = front ++ rest.toList ∧
      (∃ c, rest.toList.head? = some c ∧ isBlank c = false) ∧ read front = .ok d ∧
      ∀ longer, longer <+: text → front.length < longer.length →
        ∃ left : String, longer = front ++ left.toList ∧ read longer = .error (.trailing left) := by
  obtain ⟨⟨d, after, hlt⟩, hone, hskip, hne⟩ := read_trailing_iff.1 h
  obtain ⟨c, later, hrest⟩ := List.exists_cons_of_ne_nil hne
  replace hskip : skipBlanks after = c :: later := hskip.trans hrest
  have hc : isBlank c = false := Text.head?_skipBlanks (by rw [hskip, List.head?_cons])
  obtain ⟨blanks, hb, rfl⟩ := (skipBlanks_eq_cons_iff hc).1 hskip
  obtain ⟨hw, hleads, hend⟩ := readOne_sound hone
  obtain ⟨front, rfl, hfront⟩ := hleads.exists_front
  refine ⟨front ++ blanks, d, by simp [hrest], ⟨c, by rw [hrest, List.head?_cons], hc⟩,
    read_append_blanks hw (hfront blanks) hb, fun longer hprefix hlonger => ?_⟩
  -- A longer start goes on with the character that ended the descriptor.
  rw [← List.append_assoc] at hprefix
  obtain ⟨left, rfl⟩ := List.prefix_of_prefix_length_le (List.prefix_append _ _) hprefix
    (Nat.le_of_lt hlonger)
  rw [List.prefix_append_right_inj] at hprefix
  rcases List.prefix_cons_iff.1 hprefix with rfl | ⟨r, rfl, -⟩
  · simp at hlonger
  · refine ⟨String.ofList (c :: r), by rw [String.toList_ofList], ?_⟩
    rw [List.append_assoc]
    exact read_append_of_endsBefore hw hfront hb hc hend

/-- The list of arguments ends where the path after it starts. The start that is read takes the
blanks along. -/
theorem read_trailing_of_second_path :
    let text := "Vec<A> \tB<C>"
    read text.toList = .error (.trailing "B<C>") ∧
      read "Vec<A> \t".toList = .ok (.generic "Vec" [.name "A"]) ∧
      ∀ longer, longer <+: text.toList → 8 < longer.length → ∀ d, read longer ≠ .ok d := by
  intro text
  have hread : read text.toList = .error (.trailing "B<C>") := by decide +kernel
  obtain ⟨front, d, hfront, -, hd, hlonger⟩ := read_trailing_longest hread
  have htext : text.toList = "Vec<A> \t".toList ++ "B<C>".toList := by decide
  obtain rfl : "Vec<A> \t".toList = front := List.append_cancel_right (htext.symm.trans hfront)
  refine ⟨hread, by decide +kernel, fun longer hprefix hlength d hok => ?_⟩
  obtain ⟨left, -, hleft⟩ := hlonger longer hprefix hlength
  rw [hok] at hleft
  cases hleft

end NodeSchema.Descriptor
