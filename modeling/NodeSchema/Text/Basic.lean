/-!
# Texts

A text is a list of characters. A class of characters is listed by the first and last code
point of each of its ranges, in rising order; the blanks are such a class. Trimming takes off
blanks only, and leaves a text that neither starts nor ends with one (`trim_eq_iff`).

Lines are written with a line feed at the end of each, and read with a line feed, or a carriage
return and a line feed, at the end. Parts of a text may be given by distances in bytes from its
start; a distance that falls inside of a character gives no part.
-/

namespace NodeSchema.Text

-- ---------------------------------------------------------------------------
-- Ranges of code points
-- ---------------------------------------------------------------------------

abbrev CodeRange := Nat × Nat

def inRanges (ranges : List CodeRange) (c : Char) : Bool :=
  ranges.any fun range => range.1 ≤ c.toNat && c.toNat ≤ range.2

theorem inRanges_iff {ranges : List CodeRange} {c : Char} :
    inRanges ranges c = true ↔ ∃ range ∈ ranges, range.1 ≤ c.toNat ∧ c.toNat ≤ range.2 := by
  simp [inRanges]

-- ---------------------------------------------------------------------------
-- Blanks
-- ---------------------------------------------------------------------------

/-- The twenty-five characters with the property White_Space. -/
def blankRanges : List CodeRange := [
  (0x0009, 0x000D), (0x0020, 0x0020), (0x0085, 0x0085), (0x00A0, 0x00A0),
  (0x1680, 0x1680), (0x2000, 0x200A), (0x2028, 0x2029), (0x202F, 0x202F),
  (0x205F, 0x205F), (0x3000, 0x3000)]

def isBlank (c : Char) : Bool := inRanges blankRanges c

def Blank (s : List Char) : Prop := ∀ c ∈ s, isBlank c = true

def skipBlanks (s : List Char) : List Char := s.dropWhile isBlank

theorem length_skipBlanks_le (s : List Char) : (skipBlanks s).length ≤ s.length :=
  (List.dropWhile_suffix isBlank).length_le

def trim (s : List Char) : List Char := (skipBlanks (skipBlanks s).reverse).reverse

def Trimmed (s : List Char) : Prop :=
  (∀ c, s.head? = some c → isBlank c = false) ∧ (∀ c, s.getLast? = some c → isBlank c = false)

theorem blank_takeWhile (s : List Char) : Blank (s.takeWhile isBlank) := fun _ hc =>
  List.all_eq_true.1 List.all_takeWhile _ hc

theorem Blank.reverse {s : List Char} (h : Blank s) : Blank s.reverse := fun c hc =>
  h c (List.mem_reverse.1 hc)

theorem head?_skipBlanks {s : List Char} {c : Char} (h : (skipBlanks s).head? = some c) :
    isBlank c = false := by
  have := List.head?_dropWhile_not isBlank s
  rw [show (s.dropWhile isBlank).head? = some c from h] at this
  exact this

theorem skipBlanks_append {blanks s : List Char} (hb : Blank blanks)
    (hs : ∀ c, s.head? = some c → isBlank c = false) : skipBlanks (blanks ++ s) = s := by
  induction blanks with
  | nil =>
    cases s with
    | nil => rfl
    | cons c rest => simp [skipBlanks, hs c rfl]
  | cons b blanks ih =>
    have hb' := hb b List.mem_cons_self
    simp only [skipBlanks, List.cons_append, List.dropWhile_cons, hb', if_true]
    exact ih fun c hc => hb c (List.mem_cons_of_mem _ hc)

theorem takeWhile_append_skipBlanks (s : List Char) :
    s.takeWhile isBlank ++ skipBlanks s = s :=
  List.takeWhile_append_dropWhile

theorem trim_append_blanks (s : List Char) :
    trim s ++ ((skipBlanks s).reverse.takeWhile isBlank).reverse = skipBlanks s := by
  rw [trim, ← List.reverse_append, takeWhile_append_skipBlanks, List.reverse_reverse]

theorem trimmed_trim (s : List Char) : Trimmed (trim s) := by
  constructor
  · intro c hc
    refine head?_skipBlanks (s := s) ?_
    rw [← trim_append_blanks, List.head?_append, hc, Option.some_or]
  · intro c hc
    refine head?_skipBlanks (s := (skipBlanks s).reverse) ?_
    rwa [trim, List.getLast?_reverse] at hc

theorem trim_eq_iff {s t : List Char} :
    trim s = t ↔ Trimmed t ∧ ∃ before after, Blank before ∧ Blank after ∧
      s = before ++ t ++ after := by
  constructor
  · rintro rfl
    refine ⟨trimmed_trim s, s.takeWhile isBlank,
      ((skipBlanks s).reverse.takeWhile isBlank).reverse, blank_takeWhile s,
      (blank_takeWhile _).reverse, ?_⟩
    rw [List.append_assoc, trim_append_blanks, takeWhile_append_skipBlanks]
  · rintro ⟨⟨hhead, hlast⟩, before, after, hb, ha, rfl⟩
    cases t with
    | nil =>
      have all : Blank (before ++ after) := fun c hc =>
        (List.mem_append.1 hc).elim (hb c) (ha c)
      have : skipBlanks (before ++ [] ++ after) = [] := by
        simpa using skipBlanks_append (s := []) all (by simp)
      rw [trim, this]
      rfl
    | cons c rest =>
      have front : skipBlanks (before ++ (c :: rest) ++ after) = c :: rest ++ after := by
        rw [List.append_assoc]
        exact skipBlanks_append hb fun d hd => hhead d (by simpa using hd)
      have back : skipBlanks (after.reverse ++ (c :: rest).reverse) = (c :: rest).reverse :=
        skipBlanks_append ha.reverse fun d hd => hlast d (by rwa [List.head?_reverse] at hd)
      rw [trim, front, List.reverse_append, back, List.reverse_reverse]

-- ---------------------------------------------------------------------------
-- Identifiers
-- ---------------------------------------------------------------------------

def isIdentifierStart (c : Char) : Bool := c.isAlpha || c == '_'

def isIdentifierPart (c : Char) : Bool := c.isAlphanum || c == '_'

/-- A name of the declared program. Letters of other scripts than ASCII are not part of any. -/
def isIdentifier : List Char → Bool
  | [] => false
  | c :: rest => isIdentifierStart c && rest.all isIdentifierPart

@[simp] theorem isIdentifier_nil : isIdentifier [] = false := rfl

theorem isIdentifierPart_of_isIdentifierStart {c : Char} (h : isIdentifierStart c = true) :
    isIdentifierPart c = true := by
  simp only [isIdentifierStart, Bool.or_eq_true] at h
  simp only [isIdentifierPart, Char.isAlphanum, Bool.or_eq_true]
  exact h.imp_left Or.inl

theorem isIdentifierPart_of_mem {s : List Char} (h : isIdentifier s = true) {c : Char}
    (hc : c ∈ s) : isIdentifierPart c = true := by
  cases s with
  | nil => simp at hc
  | cons d rest =>
    simp only [isIdentifier, Bool.and_eq_true, List.all_eq_true] at h
    rcases List.mem_cons.1 hc with rfl | hc
    · exact isIdentifierPart_of_isIdentifierStart h.1
    · exact h.2 c hc

-- ---------------------------------------------------------------------------
-- Lines
-- ---------------------------------------------------------------------------

def ofLines (lines : List String) : String := String.join (lines.map (· ++ "\n"))

/-- The lines of a text, without what ends them. A last line need not be ended. -/
def lines : List Char → List (List Char)
  | [] => []
  | '\n' :: rest => [] :: lines rest
  | '\r' :: '\n' :: rest => [] :: lines rest
  | c :: rest =>
    match lines rest with
    | [] => [[c]]
    | line :: others => (c :: line) :: others

-- ---------------------------------------------------------------------------
-- Slices
-- ---------------------------------------------------------------------------

def size : List Char → Nat
  | [] => 0
  | c :: s => c.utf8Size + size s

theorem size_eq_utf8ByteSize (s : List Char) : size s = (String.ofList s).utf8ByteSize := by
  induction s with
  | nil => rfl
  | cons c s ih => simp [size, ih]

theorem size_append (s rest : List Char) : size (s ++ rest) = size s + size rest := by
  induction s with
  | nil => simp [size]
  | cons c s ih => rw [List.cons_append, size, size, ih, Nat.add_assoc]

def drop? : List Char → Nat → Option (List Char)
  | s, 0 => some s
  | [], _ + 1 => none
  | c :: s, n + 1 => if c.utf8Size ≤ n + 1 then drop? s (n + 1 - c.utf8Size) else none

def take? : List Char → Nat → Option (List Char)
  | _, 0 => some []
  | [], _ + 1 => none
  | c :: s, n + 1 =>
    if c.utf8Size ≤ n + 1 then (take? s (n + 1 - c.utf8Size)).map (c :: ·) else none

def slice? (s : List Char) (start stop : Nat) : Option (List Char) :=
  (drop? s start).bind fun rest => take? rest (stop - start)

theorem drop?_append_size (s rest : List Char) : drop? (s ++ rest) (size s) = some rest := by
  induction s with
  | nil => simp [size, drop?]
  | cons c s ih =>
    have positive := c.utf8Size_pos
    have sizeCons : size (c :: s) = size s + c.utf8Size - 1 + 1 := by simp [size]; omega
    rw [sizeCons, List.cons_append, drop?, if_pos (by omega),
      show size s + c.utf8Size - 1 + 1 - c.utf8Size = size s by omega, ih]

theorem take?_append_size (s rest : List Char) : take? (s ++ rest) (size s) = some s := by
  induction s with
  | nil => simp [size, take?]
  | cons c s ih =>
    have positive := c.utf8Size_pos
    have sizeCons : size (c :: s) = size s + c.utf8Size - 1 + 1 := by simp [size]; omega
    rw [sizeCons, List.cons_append, take?, if_pos (by omega),
      show size s + c.utf8Size - 1 + 1 - c.utf8Size = size s by omega, ih]
    rfl

end NodeSchema.Text
