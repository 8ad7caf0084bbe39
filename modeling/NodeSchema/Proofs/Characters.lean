import NodeSchema.Text.Lowercase
import NodeSchema.Descriptor.Basic
/-!
# Characters that lie apart

No character of a path is a blank, and the marks of a descriptor are neither. A path is
what `IsPath` says: cutting at pairs of colons from the left finds the identifiers that
were joined. An identifier is ASCII, so its lower case is taken character by character and
is an identifier again.
-/

namespace NodeSchema

-- ---------------------------------------------------------------------------
-- Blanks and letters
-- ---------------------------------------------------------------------------

namespace Text

/-- Both tables are short enough to compare range by range. -/
theorem blankRanges_apart : ∀ blank ∈ blankRanges, ∀ range ∈ alphanumericRanges,
    blank.2 < range.1 ∨ range.2 < blank.1 := by
  decide +kernel

theorem blankRanges_apart_ascii : ∀ blank ∈ blankRanges, blank.2 < 48 ∨ 122 < blank.1 := by
  decide

theorem toNat_of_isAlphanum {c : Char} (h : c.isAlphanum = true) :
    48 ≤ c.toNat ∧ c.toNat ≤ 122 := by
  change ((decide (c.val ≥ 65 ∧ c.val ≤ 90) || (decide (c.val ≥ 97) && decide (c.val ≤ 122))) ||
    (decide (c.val ≥ 48) && decide (c.val ≤ 57))) = true at h
  simp only [Bool.or_eq_true, Bool.and_eq_true, decide_eq_true_eq, ge_iff_le,
    UInt32.le_iff_toNat_le] at h
  rcases h with (⟨h, k⟩ | ⟨h, k⟩) | ⟨h, k⟩ <;> simp at h k <;> omega

theorem isAlphanumeric_of_isBlank {c : Char} (h : isBlank c = true) :
    isAlphanumeric c = false := by
  obtain ⟨blank, hb, low, high⟩ := inRanges_iff.1 h
  rw [isAlphanumeric, Bool.or_eq_false_iff]
  constructor
  · rw [Bool.eq_false_iff]
    intro hc
    have := toNat_of_isAlphanum hc
    have := blankRanges_apart_ascii blank hb
    omega
  · rw [Bool.and_eq_false_iff]
    refine Or.inr (Bool.eq_false_iff.2 fun hc => ?_)
    obtain ⟨range, hr, low', high'⟩ := inRanges_iff.1 hc
    have := blankRanges_apart blank hb range hr
    omega

theorem Blank.nil : Blank [] := by simp [Blank]

theorem Blank.space : Blank [' '] := fun _ hc => List.mem_singleton.1 hc ▸ rfl

theorem Blank.append {s t : List Char} (hs : Blank s) (ht : Blank t) : Blank (s ++ t) :=
  fun c hc => (List.mem_append.1 hc).elim (hs c) (ht c)

theorem trim_of_trimmed {s : List Char} (h : Trimmed s) : trim s = s :=
  trim_eq_iff.2 ⟨h, [], [], .nil, .nil, by simp⟩

-- ---------------------------------------------------------------------------
-- Identifiers in lower case
-- ---------------------------------------------------------------------------

theorem toNat_of_isIdentifierPart {c : Char} (h : isIdentifierPart c = true) : c.toNat < 128 := by
  rw [isIdentifierPart, Bool.or_eq_true] at h
  rcases h with h | h
  · have := toNat_of_isAlphanum h
    omega
  · obtain rfl : c = '_' := by simpa using h
    decide

theorem isIdentifierPart_toLower {c : Char} (h : isIdentifierPart c = true) :
    isIdentifierPart c.toLower = true := by
  have ascii : ∀ n < 128, isIdentifierPart (Char.ofNat n) = true →
      isIdentifierPart (Char.ofNat n).toLower = true := by
    decide +kernel
  have := ascii c.toNat (toNat_of_isIdentifierPart h)
  rw [Char.ofNat_toNat] at this
  exact this h

theorem lowercaseAfter_of_isIdentifierPart {before s : List Char}
    (h : ∀ c ∈ s, isIdentifierPart c = true) : lowercaseAfter before s = s.map Char.toLower := by
  induction s generalizing before with
  | nil => rfl
  | cons c s ih =>
    have hc := h c List.mem_cons_self
    -- The two characters with a rule of their own are not ASCII.
    have hsigma : c ≠ 'Σ' := by rintro rfl; cases hc
    have hdotted : c ≠ 'İ' := by rintro rfl; cases hc
    rw [lowercaseAfter, lowercaseAt, if_neg hsigma, if_neg hdotted,
      lowerChar_ascii (toNat_of_isIdentifierPart hc), ih fun d hd => h d (List.mem_cons_of_mem c hd)]
    rfl

theorem isIdentifierPart_of_mem_lowercase {name : String} (h : isIdentifier name.toList = true)
    {c : Char} (hc : c ∈ (lowercase name).toList) : isIdentifierPart c = true := by
  rw [lowercase, String.toList_ofList,
    lowercaseAfter_of_isIdentifierPart fun d hd => isIdentifierPart_of_mem h hd] at hc
  obtain ⟨d, hd, rfl⟩ := List.mem_map.1 hc
  exact isIdentifierPart_toLower (isIdentifierPart_of_mem h hd)

end Text

namespace Descriptor

theorem isBlank_of_isPathPart {c : Char} (h : isPathPart c = true) : Text.isBlank c = false := by
  rw [Bool.eq_false_iff]
  intro hb
  rw [isPathPart, Text.isAlphanumeric_of_isBlank hb] at h
  have : c = '_' ∨ c = ':' := by simpa using h
  rcases this with rfl | rfl <;> exact absurd hb (by decide)

-- ---------------------------------------------------------------------------
-- Paths
-- ---------------------------------------------------------------------------

theorem colon_not_mem_of_isIdentifier {s : List Char} (h : Text.isIdentifier s = true) :
    ':' ∉ s := fun hc => absurd (Text.isIdentifierPart_of_mem h hc) (by decide)

theorem segments_of_no_colon {s : List Char} (h : ':' ∉ s) : segments s = [s] := by
  fun_induction segments s with
  | case1 => rfl
  | case2 => rfl
  | case3 c d rest hcd => simp [hcd.1] at h
  | case4 c d rest _ ih => simp [ih (fun hm => h (List.mem_cons_of_mem c hm))]

theorem segments_append_colons {s : List Char} (h : ':' ∉ s) (rest : List Char) :
    segments (s ++ ':' :: ':' :: rest) = s :: segments rest := by
  induction s with
  | nil => simp [segments]
  | cons c s ih =>
    have hc : ¬ c = ':' := fun e => h (e ▸ List.mem_cons_self)
    have tail := ih fun hm => h (List.mem_cons_of_mem c hm)
    -- The second character decides which equation of `segments` applies.
    cases s with
    | nil => simp_all [segments]
    | cons d s => simp_all [segments]

theorem segments_intercalate {parts : List (List Char)} (hne : parts ≠ [])
    (h : ∀ part ∈ parts, ':' ∉ part) : segments ([':', ':'].intercalate parts) = parts := by
  induction parts with
  | nil => exact absurd rfl hne
  | cons part parts ih =>
    have hpart := h part List.mem_cons_self
    cases parts with
    | nil => simpa using segments_of_no_colon hpart
    | cons next parts =>
      have tail := ih (by simp) fun p hp => h p (List.mem_cons_of_mem _ hp)
      rw [List.intercalate_cons_cons, List.append_assoc]
      simpa [tail] using segments_append_colons hpart ([':', ':'].intercalate (next :: parts))

theorem intercalate_segments (s : List Char) : [':', ':'].intercalate (segments s) = s := by
  fun_induction segments s with
  | case1 => rfl
  | case2 c => simp
  | case3 c d rest hcd ih =>
    obtain ⟨rfl, rfl⟩ := hcd
    rw [List.intercalate_cons_of_ne_nil (segments_ne_nil rest), ih]
    rfl
  | case4 c d rest _ ih =>
    obtain ⟨first, others, hs⟩ := List.exists_cons_of_ne_nil (segments_ne_nil (d :: rest))
    rw [hs] at ih ⊢
    cases others with
    | nil => simpa using ih
    | cons next others => simpa [List.intercalate_cons_cons] using ih

theorem isPath_iff {s : List Char} : isPath s = true ↔ IsPath s := by
  rw [isPath, List.all_eq_true]
  constructor
  · intro h
    exact ⟨segments s, segments_ne_nil s, h, (intercalate_segments s).symm⟩
  · rintro ⟨parts, hne, h, rfl⟩
    rwa [segments_intercalate hne fun part hp => colon_not_mem_of_isIdentifier (h part hp)]

theorem IsPath.of_isIdentifier {s : List Char} (h : Text.isIdentifier s = true) : IsPath s :=
  ⟨[s], by simp, by simpa using h, by simp⟩

theorem IsPath.isIdentifierPart_or_colon {s : List Char} (h : IsPath s) {c : Char} (hc : c ∈ s) :
    Text.isIdentifierPart c = true ∨ c = ':' := by
  obtain ⟨parts, -, h, rfl⟩ := h
  induction parts with
  | nil => simp at hc
  | cons part parts ih =>
    have hpart : c ∈ part → Text.isIdentifierPart c = true := fun hm =>
      Text.isIdentifierPart_of_mem (h part List.mem_cons_self) hm
    cases parts with
    | nil => exact .inl (hpart (by simpa using hc))
    | cons next parts =>
      rw [List.intercalate_cons_cons, List.mem_append, List.mem_append] at hc
      rcases hc with (hc | hc) | hc
      · exact .inl (hpart hc)
      · exact .inr (by simpa using hc)
      · exact ih (fun p hp => h p (List.mem_cons_of_mem _ hp)) hc

theorem IsPath.isPathPart {s : List Char} (h : IsPath s) {c : Char} (hc : c ∈ s) :
    isPathPart c = true := by
  rcases h.isIdentifierPart_or_colon hc with hpart | rfl
  · exact isPathPart_of_isIdentifierPart hpart
  · decide

theorem IsPath.ne_nil {s : List Char} (h : IsPath s) : s ≠ [] := by
  rintro rfl
  have := isPath_iff.2 h
  simp [isPath] at this

end Descriptor

end NodeSchema
