import NodeSchema.Proofs.DescriptorPrinting
import NodeSchema.Proofs.DescriptorText
/-!
# The canonical text of a descriptor

What is read from a text is printed as that text with its blanks taken out and a space put after
every comma. So the blanks of a text are all that reading loses: texts that differ in nothing
else are read as one descriptor, and no other texts are.
-/

namespace NodeSchema

namespace Text

def withoutBlanks (s : List Char) : List Char := s.filter fun c => !isBlank c

def spaceCommas (s : List Char) : List Char :=
  s.flatMap fun c => if c = ',' then [',', ' '] else [c]

@[simp] theorem withoutBlanks_append (s t : List Char) :
    withoutBlanks (s ++ t) = withoutBlanks s ++ withoutBlanks t :=
  List.filter_append s t

theorem Blank.withoutBlanks {s : List Char} (h : Blank s) : withoutBlanks s = [] :=
  List.filter_eq_nil_iff.2 fun c hc => by simp [h c hc]

theorem withoutBlanks_of_no_blank {s : List Char} (h : ∀ c ∈ s, isBlank c = false) :
    withoutBlanks s = s :=
  List.filter_eq_self.2 fun c hc => by simp [h c hc]

@[simp] theorem spaceCommas_append (s t : List Char) :
    spaceCommas (s ++ t) = spaceCommas s ++ spaceCommas t :=
  List.flatMap_append

theorem spaceCommas_of_no_comma {s : List Char} (h : ',' ∉ s) : spaceCommas s = s := by
  induction s with
  | nil => rfl
  | cons c s ih =>
    rw [List.mem_cons, not_or] at h
    rw [spaceCommas, List.flatMap_cons, if_neg (Ne.symm h.1)]
    exact congrArg (c :: ·) (ih h.2)

end Text

namespace Descriptor

open Text (withoutBlanks spaceCommas)

-- ---------------------------------------------------------------------------
-- What reading loses
-- ---------------------------------------------------------------------------

theorem Spells.withoutBlanks_eq {ts : List Token} {s : List Char} (h : Spells ts s)
    (hts : ∀ t ∈ ts, t.WellFormed) : withoutBlanks s = ts.flatMap Token.spelling := by
  induction h with
  | done hb => exact hb.withoutBlanks
  | @token t ts blanks s hb _ ih =>
    have ht := hts t List.mem_cons_self
    have hspelling : withoutBlanks t.spelling = t.spelling :=
      Text.withoutBlanks_of_no_blank fun c hc => ht.not_blank hc
    rw [Text.withoutBlanks_append, Text.withoutBlanks_append, hb.withoutBlanks, hspelling,
      ih fun u hu => hts u (List.mem_cons_of_mem t hu), List.flatMap_cons, List.nil_append]

theorem withoutBlanks_of_read {text : List Char} {d : Descriptor} (h : read text = .ok d) :
    withoutBlanks text = d.tokens.flatMap Token.spelling := by
  obtain ⟨hw, hspells⟩ := spells_of_read h
  exact hspells.withoutBlanks_eq fun t ht => wellFormed_of_mem_tokens d hw ht

-- ---------------------------------------------------------------------------
-- What printing adds
-- ---------------------------------------------------------------------------

theorem spaceCommas_path {path : List Char} (h : IsPath path) : spaceCommas path = path :=
  Text.spaceCommas_of_no_comma fun hc => absurd (h.isPathPart hc) (by decide)

theorem spaceCommas_brackets {opener closer : Char} (ho : opener ≠ ',') (hc : closer ≠ ',')
    (s : List Char) :
    spaceCommas (opener :: (s ++ [closer])) = opener :: (spaceCommas s ++ [closer]) := by
  have single {c : Char} (h : c ≠ ',') : spaceCommas [c] = [c] :=
    Text.spaceCommas_of_no_comma (by simpa using Ne.symm h)
  rw [← List.singleton_append, Text.spaceCommas_append, Text.spaceCommas_append, single ho,
    single hc, List.singleton_append]

theorem spaceCommas_arguments {head : List Char} (h : IsPath head) (s : List Char) :
    spaceCommas (head ++ '<' :: (s ++ ['>'])) = head ++ '<' :: (spaceCommas s ++ ['>']) := by
  rw [Text.spaceCommas_append, spaceCommas_path h, spaceCommas_brackets (by decide) (by decide)]

mutual
theorem toList_print : (d : Descriptor) → d.WellFormed →
    d.print.toList = spaceCommas (d.tokens.flatMap Token.spelling)
  | .name path, hw => by
    simpa [print, tokens, Token.spelling] using (spaceCommas_path hw).symm
  | .generic head arguments, hw => by
    rw [spelling_generic, spaceCommas_arguments hw.1, ← toList_printList arguments hw.2.2.2]
    simp [print]
  | .tuple elements, hw => by
    rw [spelling_tuple, spaceCommas_brackets (by decide) (by decide),
      ← toList_printList elements hw]
    simp [print]
  | .optional inner, hw => by
    rw [spelling_optional, spaceCommas_arguments isPath_option, ← toList_print inner hw]
    simp [print]

theorem toList_printList : (ds : List Descriptor) → AllWellFormed ds →
    (printList ds).toList = spaceCommas ((listTokens ds).flatMap Token.spelling)
  | [], _ => rfl
  | [d], hw => toList_print d hw.1
  | d :: e :: ds, hw => by
    have hcomma : spaceCommas [','] = [',', ' '] := rfl
    rw [spelling_listTokens_cons_cons, Text.spaceCommas_append, Text.spaceCommas_append, hcomma,
      ← toList_print d hw.1, ← toList_printList (e :: ds) hw.2]
    simp [printList]
end

theorem toList_print_of_read {text : List Char} {d : Descriptor} (h : read text = .ok d) :
    d.print.toList = spaceCommas (withoutBlanks text) := by
  rw [withoutBlanks_of_read h, toList_print d (spells_of_read h).1]

/-- The printed form of a descriptor is the text that it was read from, without its blanks and
with a space after every comma. So two texts are read as one descriptor exactly if they are
equal but for blanks. -/
theorem print_eq_spaced_text {text : List Char} {d : Descriptor} (h : read text = .ok d) :
    d.print.toList = spaceCommas (withoutBlanks text) ∧
      ∀ {other : List Char} {e : Descriptor}, read other = .ok e →
        (d = e ↔ withoutBlanks text = withoutBlanks other) := by
  refine ⟨toList_print_of_read h, fun {other e} hother => ⟨?_, fun hsame => ?_⟩⟩
  · rintro rfl
    rw [withoutBlanks_of_read h, withoutBlanks_of_read hother]
  · -- Texts that differ in blanks only are printed alike, and printing tells descriptors apart.
    have hprint : d.print = e.print := String.toList_inj.1 <| by
      rw [toList_print_of_read h, toList_print_of_read hother, hsame]
    exact print_injOn (spells_of_read h).1 (spells_of_read hother).1 hprint

/-- Blanks of several kinds, a unit and an `Option` with a tuple. -/
theorem print_of_spread_text :
    let text := "\tOption\u3000<\n( std::rc::Rc <T >,() )\u00a0> ".toList
    let d := optional (.tuple [.generic "std::rc::Rc" [.name "T"], .tuple []])
    read text = .ok d ∧ d.print.toList = spaceCommas (withoutBlanks text) ∧
      withoutBlanks text = "Option<(std::rc::Rc<T>,())>".toList ∧
      read "Option<(std::rc::Rc<T>,())>".toList = .ok d := by
  intro text d
  have hread : read text = .ok d := by decide +kernel
  have hbare : read "Option<(std::rc::Rc<T>,())>".toList = .ok d := by decide +kernel
  obtain ⟨hprint, hsame⟩ := print_eq_spaced_text hread
  have hblanks : withoutBlanks text = withoutBlanks "Option<(std::rc::Rc<T>,())>".toList :=
    (hsame hbare).1 rfl
  exact ⟨hread, hprint, hblanks.trans (by decide +kernel), hbare⟩

end Descriptor

end NodeSchema
