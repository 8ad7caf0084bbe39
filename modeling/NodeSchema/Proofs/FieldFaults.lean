import Mathlib.Order.Bounds.Basic
import NodeSchema.Proofs.BracketCounts
import NodeSchema.Proofs.VariantReading
/-!
# The first field at fault

A field list that can be cut is refused for its first piece that is blank or that is read as no
descriptor. The pieces before this one would be accepted by themselves, and what follows it does
not matter. A field list that cannot be cut is refused as a whole, for the fault of the cut,
before any of its pieces is looked at.

Open brackets are counted without a limit, where the program has 32 bits with a sign: what is said
here is about the program for texts with fewer than 2^31 brackets open at a time.
-/

namespace NodeSchema

open Text (Blank trim)

-- ---------------------------------------------------------------------------
-- Explanations
-- ---------------------------------------------------------------------------

/-- The text that a cause quotes as malformed, and the explanation that goes with it. -/
def Cause.quoted? : Cause → Option (String × String)
  | .unevenFields text fault => some (text, fault.message)
  | .malformedField text fault => some (text, fault.message)
  | _ => none

theorem head?_append_toList {s t : String} {c : Char} (h : s.toList.head? = some c) :
    (s ++ t).toList.head? = some c := by
  rw [String.toList_append, List.head?_append, h, Option.some_or]

theorem FieldList.Fault.head?_message (f : FieldList.Fault) :
    f.message.toList.head? = some 'u' := by
  cases f with
  | stray closer offset =>
    exact head?_append_toList (head?_append_toList (head?_append_toList (by decide)))
  | unbalanced => decide

theorem Descriptor.Fault.head?_message (f : Descriptor.Fault) :
    f.message.toList.head? ≠ some 'u' := by
  have other {c : Char} (h : f.message.toList.head? = some c) (hc : c ≠ 'u') :
      f.message.toList.head? ≠ some 'u' := by simpa [h] using hc
  cases f with
  | missing wanted found =>
    have h := head?_append_toList (s := "expected `") (t := wanted.toString) (c := 'e') (by decide)
    exact other (head?_append_toList (head?_append_toList h)) (by decide)
  | missingName found => exact other (head?_append_toList (c := 'e') (by decide)) (by decide)
  | notPath run =>
    exact other (head?_append_toList (head?_append_toList (c := '`') (by decide))) (by decide)
  | argumentCount found => exact other (head?_append_toList (c := '`') (by decide)) (by decide)
  | trailing rest =>
    exact other (head?_append_toList (head?_append_toList (c := 't') (by decide))) (by decide)

theorem FieldList.Fault.message_injective : Function.Injective FieldList.Fault.message := by
  have stray_ne {c : Char} {n : Nat} : (Fault.stray c n).message ≠ Fault.unbalanced.message := by
    intro h
    have hthird := congrArg (fun s : String => s.toList[2]?) h
    simp [message] at hthird
  intro f g h
  cases f with
  | unbalanced =>
    cases g with
    | unbalanced => rfl
    | stray d m => exact absurd h.symm stray_ne
  | stray c n =>
    cases g with
    | unbalanced => exact absurd h stray_ne
    | stray d m =>
      replace h := congrArg String.toList h
      simp only [message, Char.toString_eq_singleton, Nat.toString_eq_repr, String.toList_append,
        String.toList_singleton, List.append_assoc, List.singleton_append] at h
      obtain ⟨rfl, hrest⟩ := List.cons.inj (List.append_cancel_left h)
      have hoffset := congrArg (Nat.ofDigitChars 10 · 0) (List.append_cancel_left hrest)
      simp only [Nat.toList_repr, Nat.ofDigitChars_ten_toDigits] at hoffset
      rw [hoffset]

/-- Only a field list as a whole is quoted with an explanation of the cut. -/
theorem Cause.quoted?_eq_message_iff {cause : Cause} {text : String} {fault : FieldList.Fault} :
    cause.quoted? = some (text, fault.message) ↔ cause = .unevenFields text fault := by
  cases cause with
  | unevenFields t f =>
    simp only [quoted?, Option.some.injEq, Prod.mk.injEq, unevenFields.injEq]
    exact and_congr_right fun _ => FieldList.Fault.message_injective.eq_iff
  | malformedField t f =>
    simp only [quoted?, Option.some.injEq, Prod.mk.injEq, reduceCtorEq, iff_false, not_and]
    intro _ h
    have hhead := f.head?_message
    rw [h, fault.head?_message] at hhead
    exact hhead rfl
  | _ => simp [quoted?]

-- ---------------------------------------------------------------------------
-- Pieces
-- ---------------------------------------------------------------------------

theorem Text.trim_eq_nil_iff {s : List Char} : trim s = [] ↔ Blank s := by
  rw [trim_eq_iff]
  constructor
  · rintro ⟨-, before, after, hb, ha, rfl⟩
    simpa using hb.append ha
  · intro h
    exact ⟨by simp [Trimmed], s, [], h, .nil, by simp⟩

theorem Text.trim_trim (s : List Char) : trim (trim s) = trim s :=
  trim_of_trimmed (trimmed_trim s)

namespace Field

/-- The piece is blank, or what stands between its blanks is no descriptor. -/
def Faulty (piece : List Char) : Prop :=
  Blank piece ∨ ∃ fault, Descriptor.read (trim piece) = .error fault

/-- What a piece at fault is refused for, at its position in the field list. -/
inductive Blamed (position : Nat) (piece : List Char) : Cause → Prop
  | blank : Blank piece → Blamed position piece (.emptyField position)
  | malformed {fault : Descriptor.Fault} : ¬ Blank piece →
    Descriptor.read (trim piece) = .error fault →
    Blamed position piece (.malformedField (String.ofList (trim piece)) fault)

theorem read_error_iff {position : Nat} {piece : List Char} {cause : Cause} :
    read position piece = .error cause ↔ Blamed position piece cause := by
  rw [read]
  split
  · next htrim =>
    have hb := Text.trim_eq_nil_iff.1 htrim
    constructor
    · rintro ⟨⟩
      exact .blank hb
    · rintro (_ | ⟨hnot, _⟩)
      · rfl
      · exact absurd hb hnot
  · next c text htrim =>
    have hnot : ¬ Blank piece := by
      rw [← Text.trim_eq_nil_iff, htrim]
      exact List.cons_ne_nil c text
    rw [← htrim]
    constructor
    · intro h
      cases hread : Descriptor.read (trim piece) with
      | ok type => simp [hread] at h
      | error fault =>
        simp only [hread] at h
        cases h
        exact .malformed hnot hread
    · rintro (hb | ⟨_, hread⟩)
      · exact absurd hb hnot
      · rw [hread]

theorem Blamed.faulty {position : Nat} {piece : List Char} {cause : Cause}
    (h : Blamed position piece cause) : Faulty piece := by
  cases h with
  | blank hb => exact .inl hb
  | malformed _ hread => exact .inr ⟨_, hread⟩

theorem Keeps.not_faulty {f : Field} {piece : List Char} (h : f.Keeps (trim piece)) :
    ¬ Faulty piece := by
  rintro (hb | ⟨fault, hread⟩)
  · have hnot := Descriptor.not_blank_of_read h.2.2
    rw [Text.trim_eq_nil_iff.2 hb] at hnot
    exact hnot .nil
  · rw [h.2.2] at hread
    cases hread

theorem not_faulty_of_mem {fields : List Field} {front : List (List Char)}
    (h : List.Forall₂ Keeps fields (front.map trim)) : ∀ piece ∈ front, ¬ Faulty piece := by
  have hpieces : List.Forall₂ (fun piece f => ¬ Faulty piece ∧ Keeps f (trim piece)) front fields :=
    (List.forall₂_map_right_iff.1 h).flip.imp fun _ _ hf => ⟨Keeps.not_faulty hf, hf⟩
  exact ((List.forall₂_and_left front fields).1 hpieces).1

theorem readAll_cons_error_iff {position : Nat} {piece : List Char} {pieces : List (List Char)}
    {cause : Cause} : readAll position (piece :: pieces) = .error cause ↔
      Blamed position piece cause ∨
        ∃ f : Field, f.Keeps (trim piece) ∧ readAll (position + 1) pieces = .error cause := by
  have hkeeps {f : Field} : f.Keeps (trim piece) ↔ read position piece = .ok f := read_iff.symm
  simp only [readAll, ← read_error_iff, hkeeps]
  cases read position piece with
  | error first => simp
  | ok f => cases readAll (position + 1) pieces <;> simp

theorem readAll_error_iff {position : Nat} {pieces : List (List Char)} {cause : Cause} :
    readAll position pieces = .error cause ↔ ∃ front piece later fields,
      pieces = front ++ piece :: later ∧ List.Forall₂ Keeps fields (front.map trim) ∧
        Blamed (position + front.length) piece cause := by
  induction pieces generalizing position with
  | nil => simp [readAll]
  | cons piece pieces ih =>
    rw [readAll_cons_error_iff, ih]
    constructor
    · rintro (hblamed | ⟨f, hf, front, p, later, fields, rfl, hfields, hblamed⟩)
      · exact ⟨[], piece, pieces, [], rfl, .nil, hblamed⟩
      · rw [Nat.add_assoc, Nat.add_comm 1] at hblamed
        exact ⟨piece :: front, p, later, f :: fields, rfl, .cons hf hfields, hblamed⟩
    · rintro ⟨front, p, later, fields, heq, hfields, hblamed⟩
      cases front with
      | nil =>
        cases heq
        exact .inl hblamed
      | cons q front =>
        cases heq
        cases hfields with
        | cons hf hfields =>
          rw [List.length_cons, Nat.add_comm front.length, ← Nat.add_assoc] at hblamed
          exact .inr ⟨_, hf, front, p, later, _, rfl, hfields, hblamed⟩

theorem read_trim {position : Nat} {piece : List Char} :
    read position (trim piece) = read position piece := by
  rw [read, read, Text.trim_trim]

theorem readAll_map_trim {position : Nat} {pieces : List (List Char)} :
    readAll position (pieces.map trim) = readAll position pieces := by
  induction pieces generalizing position with
  | nil => rfl
  | cons piece pieces ih => rw [List.map_cons, readAll, readAll, read_trim, ih]

end Field

-- ---------------------------------------------------------------------------
-- Specifications
-- ---------------------------------------------------------------------------

namespace Variant

/-- The specification with the given texts before its bar and between its commas. -/
def assemble (title : List Char) (pieces : List (List Char)) : String :=
  String.ofList (title ++ '|' :: [','].intercalate pieces)

theorem toList_assemble (title : List Char) (pieces : List (List Char)) :
    (assemble title pieces).toList = title ++ '|' :: [','].intercalate pieces :=
  String.toList_ofList

section
variable {spec : String} {before after : List Char} {cause : Cause}

/-- A name in order leaves the fields to be at fault. -/
theorem read_error_iff_of_name (hspec : spec.toList = before ++ '|' :: after)
    (hname : Text.isIdentifier (trim before) = true) :
    read spec = .error cause ↔ readFields after = .error cause := by
  rw [← String.toList_ofList (l := trim before)] at hname
  have hread := readName_iff.2 ⟨hname, String.toList_ofList.symm⟩
  have hbar : '|' ∉ before := bar_not_mem_of_trim hname String.toList_ofList.symm
  rw [read]
  simp only [splitAtBar_eq_some_iff.2 ⟨hbar, hspec⟩, hread]
  cases readFields after <;> simp

theorem readFields_of_cut {s : List Char} {pieces : List (List Char)} (hne : trim s ≠ [])
    (h : FieldList.cut (trim s) = .ok pieces) : readFields s = Field.readAll 0 pieces := by
  rw [readFields]
  split
  · next htrim => exact absurd htrim hne
  · next c text htrim =>
    rw [htrim] at h
    simp only [h]

/-- Trimming the whole list first changes no field and no fault. -/
theorem readFields_eq_readAll {s : List Char} {pieces : List (List Char)} (hne : ¬ Blank s)
    (h : FieldList.cut s = .ok pieces) : readFields s = Field.readAll 0 pieces := by
  obtain ⟨found, hfound, hsame⟩ := FieldList.cut_trim_iff.2 ⟨pieces, h, rfl⟩
  rw [readFields_of_cut (mt Text.trim_eq_nil_iff.1 hne) hfound, ← Field.readAll_map_trim, hsame,
    Field.readAll_map_trim]

theorem readFields_uneven_iff {s : List Char} {text : String} {fault : FieldList.Fault} :
    readFields s = .error (.unevenFields text fault) ↔
      text.toList = trim s ∧ FieldList.cut (trim s) = .error fault := by
  cases hcut : FieldList.cut (trim s) with
  | ok pieces =>
    simp only [reduceCtorEq, and_false, iff_false]
    intro h
    by_cases hne : trim s = []
    · simp [readFields, hne] at h
    · -- A piece is never refused for the fault of a cut.
      rw [readFields_of_cut hne hcut] at h
      obtain ⟨_, _, _, _, _, _, hblamed⟩ := Field.readAll_error_iff.1 h
      cases hblamed
  | error found =>
    rw [readFields]
    split
    · next htrim =>
      rw [htrim] at hcut
      cases hcut
    · next c rest htrim =>
      rw [htrim] at hcut ⊢
      simp only [hcut, Except.error.injEq, Cause.unevenFields.injEq, ← String.toList_inj,
        String.toList_ofList, eq_comm (a := text.toList)]

theorem readName_error {s : List Char} (h : readName s = .error cause) :
    Text.isIdentifier (trim s) = false ∧ cause.quoted? = none := by
  rw [readName] at h
  split at h
  · next htrim =>
    cases h
    exact ⟨by rw [htrim, Text.isIdentifier_nil], rfl⟩
  · next c name htrim =>
    split at h
    · cases h
    · next hname =>
      cases h
      exact ⟨by rwa [htrim, Bool.eq_false_iff], rfl⟩

theorem read_uneven_iff (hspec : spec.toList = before ++ '|' :: after) (hbar : '|' ∉ before)
    {text : String} {fault : FieldList.Fault} :
    read spec = .error (.unevenFields text fault) ↔ Text.isIdentifier (trim before) = true ∧
      text.toList = trim after ∧ FieldList.cut (trim after) = .error fault := by
  by_cases hname : Text.isIdentifier (trim before) = true
  · rw [read_error_iff_of_name hspec hname, readFields_uneven_iff]
    simp only [hname, true_and]
  · simp only [hname, Bool.false_eq_true, false_and, iff_false]
    intro h
    rw [read] at h
    simp only [splitAtBar_eq_some_iff.2 ⟨hbar, hspec⟩] at h
    cases hread : readName before with
    | ok name =>
      obtain ⟨hident, htrim⟩ := readName_iff.1 hread
      exact hname (htrim ▸ hident)
    | error cause =>
      simp only [hread] at h
      cases h
      cases (readName_error hread).2

end

theorem comma_mem_intercalate {piece : List Char} {front others : List (List Char)}
    (hne : others ≠ []) : ',' ∈ [','].intercalate (front ++ piece :: others) := by
  induction front with
  | nil =>
    rw [List.nil_append, List.intercalate_cons_of_ne_nil hne]
    simp
  | cons first front ih =>
    rw [List.cons_append, List.intercalate_cons_of_ne_nil (by simp)]
    exact List.mem_append_right _ ih

section
variable {title : List Char} {front : List (List Char)}

theorem read_assemble_front {fields : List Field} (hname : Text.isIdentifier (trim title) = true)
    (hne : front ≠ []) (hpieces : ∀ p ∈ front, FieldList.depthOver 0 p = some 0)
    (hkeeps : List.Forall₂ Field.Keeps fields (front.map trim)) :
    ∃ v, read (assemble title front) = .ok v := by
  have hcut := FieldList.cut_iff.2 ⟨hne, hpieces, rfl⟩
  refine ⟨⟨String.ofList (trim title), fields⟩, read_iff.2 ⟨title, [','].intercalate front, ?_⟩⟩
  rw [String.toList_ofList]
  exact ⟨toList_assemble title front, hname, rfl, readFields_iff.2 ⟨front, hcut, hkeeps⟩⟩

/-- The first piece at fault decides, as long as a comma follows it. -/
theorem read_assemble_error {fields : List Field} {piece : List Char} {others : List (List Char)}
    {cause : Cause} (hname : Text.isIdentifier (trim title) = true)
    (hpieces : ∀ p ∈ front ++ piece :: others, FieldList.depthOver 0 p = some 0)
    (hne : others ≠ [])
    (hkeeps : List.Forall₂ Field.Keeps fields (front.map trim))
    (hblamed : Field.Blamed front.length piece cause) :
    read (assemble title (front ++ piece :: others)) = .error cause := by
  have hcut := FieldList.cut_iff.2 ⟨by simp, hpieces, rfl⟩
  have hnot : ¬ Blank ([','].intercalate (front ++ piece :: others)) := fun hb =>
    absurd (hb ',' (comma_mem_intercalate hne)) (by decide)
  rw [read_error_iff_of_name (toList_assemble title _) hname, readFields_eq_readAll hnot hcut]
  refine Field.readAll_error_iff.2 ⟨front, piece, others, fields, rfl, hkeeps, ?_⟩
  rwa [Nat.zero_add]

end

/-- A specification with a name and a field list that can be cut is refused for the first piece
that is blank or no descriptor. The pieces before it make up a specification that is accepted,
and with any other pieces after it the specification is refused for the same cause. A text is
quoted with an explanation of the cut exactly if it is the whole field list, blanks at its ends
aside, the name is in order and the list cannot be cut: no piece of it is looked at. -/
theorem read_error_outcome {spec : String} {before after : List Char}
    (hspec : spec.toList = before ++ '|' :: after) (hbar : '|' ∉ before) :
    (∀ pieces cause, Text.isIdentifier (trim before) = true → trim after ≠ [] →
      FieldList.cut (trim after) = .ok pieces → read spec = .error cause → ∃ i piece,
        pieces[i]? = some piece ∧
        IsLeast {j | ∃ p, pieces[j]? = some p ∧ Field.Faulty p} i ∧ Field.Blamed i piece cause ∧
        ∀ title, trim title = trim before →
          (0 < i → ∃ v, read (assemble title (pieces.take i)) = .ok v) ∧
          ∀ others, others ≠ [] → (∀ p ∈ others, FieldList.cut p = .ok [p]) →
            read (assemble title (pieces.take (i + 1) ++ others)) = .error cause) ∧
    ∀ text (fault : FieldList.Fault),
      (∃ cause, read spec = .error cause ∧ cause.quoted? = some (text, fault.message)) ↔
        Text.isIdentifier (trim before) = true ∧ text.toList = trim after ∧
          FieldList.cut (trim after) = .error fault := by
  refine ⟨fun pieces cause hname hne hcut hread => ?_, fun text fault => ?_⟩
  · rw [read_error_iff_of_name hspec hname, readFields_of_cut hne hcut] at hread
    obtain ⟨front, piece, later, fields, rfl, hkeeps, hblamed⟩ :=
      Field.readAll_error_iff.1 hread
    rw [Nat.zero_add] at hblamed
    obtain ⟨-, hpieces, -⟩ := FieldList.cut_iff.1 hcut
    refine ⟨front.length, piece, by simp, ⟨⟨piece, by simp, hblamed.faulty⟩, ?_⟩, hblamed, ?_⟩
    · rintro j ⟨p, hp, hfaulty⟩
      refine Nat.le_of_not_lt fun hlt => ?_
      rw [List.getElem?_append_left hlt] at hp
      exact Field.not_faulty_of_mem hkeeps p (List.mem_of_getElem? hp) hfaulty
    · intro title htitle
      rw [← htitle] at hname
      have htake : (front ++ piece :: later).take (front.length + 1) = front ++ [piece] := by
        simp [List.take_append, List.take_of_length_le]
      refine ⟨fun hpos => ?_, fun others hothers hcuts => ?_⟩
      · rw [List.take_left]
        exact read_assemble_front hname (List.ne_nil_of_length_pos hpos)
          (fun p hp => hpieces p (List.mem_append_left _ hp)) hkeeps
      · rw [htake, List.append_assoc, List.singleton_append]
        refine read_assemble_error hname (fun p hp => ?_) hothers hkeeps hblamed
        rcases List.mem_append.1 hp with hp | hp
        · exact hpieces p (List.mem_append_left _ hp)
        · rcases List.mem_cons.1 hp with rfl | hp
          · exact hpieces p (by simp)
          · exact FieldList.cut_singleton_iff.1 (hcuts p hp)
  · rw [← read_uneven_iff hspec hbar]
    simp only [Cause.quoted?_eq_message_iff, exists_eq_right]

/-- The second piece is blank, and the third is at fault as well. Of a list that cannot be cut
not even the blank first piece is seen. -/
theorem read_error_of_blank_piece :
    let spec := "Assign | (A, B), ,Vec<>"
    let pieces := ["(A, B)".toList, " ".toList, "Vec<>".toList]
    FieldList.cut (trim " (A, B), ,Vec<>".toList) = .ok pieces ∧
      read spec = .error (.emptyField 1) ∧
      IsLeast {j | ∃ p, pieces[j]? = some p ∧ Field.Faulty p} 1 ∧
      (∃ v, read (assemble "Assign".toList ["(A, B)".toList]) = .ok v) ∧
      read (assemble "Assign".toList ["(A, B)".toList, [' '], ['C'], []]) =
        .error (.emptyField 1) ∧
      ∃ cause, read "Assign| ,A>" = .error cause ∧
        cause.quoted? = some (",A>", "unexpected `>` at byte 2") := by
  intro spec pieces
  have hcut : FieldList.cut (trim " (A, B), ,Vec<>".toList) = .ok pieces := by decide +kernel
  have hread : read spec = .error (.emptyField 1) := by decide +kernel
  have hspec : spec.toList = "Assign ".toList ++ '|' :: " (A, B), ,Vec<>".toList := by decide
  obtain ⟨i, piece, -, hleast, hblamed, hothers⟩ :=
    (read_error_outcome hspec (by decide)).1 pieces _ (by decide) (by decide) hcut hread
  obtain rfl : i = 1 := by
    cases hblamed
    rfl
  obtain ⟨hfront, hlater⟩ := hothers "Assign".toList (by decide)
  have hother : "Assign| ,A>".toList = "Assign".toList ++ '|' :: " ,A>".toList := by decide
  have huneven := (read_error_outcome hother (by decide)).2 ",A>" (.stray '>' 2)
  refine ⟨hcut, hread, hleast, hfront (by decide), ?_, huneven.2 ?_⟩
  · exact hlater [['C'], []] (by simp) (by decide)
  · exact ⟨by decide, by decide, by decide⟩

end Variant

end NodeSchema
