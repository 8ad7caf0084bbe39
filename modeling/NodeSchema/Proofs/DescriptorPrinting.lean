import NodeSchema.Proofs.DescriptorReading
/-!
# The printer of descriptors and their reader

What is printed spells the tokens of the descriptor, whether or not its names are paths. So the
printed text is read back exactly if the descriptor is well formed: for any other one the reader
refuses the text or finds a different descriptor in it.
-/

namespace NodeSchema.Descriptor

theorem spells_token (t : Token) : Spells [t] t.spelling := by
  have h : Spells [t] ([] ++ t.spelling ++ []) := .token .nil (.done .nil)
  simpa using h

theorem spells_arguments (head : String) {ts : List Token} {s : List Char} (h : Spells ts s) :
    Spells ([.path head.toList, .mark '<'] ++ ts ++ [.mark '>'])
      (head.toList ++ '<' :: (s ++ ['>'])) :=
  (spells_token (.path head.toList)).append <|
    (spells_token (.mark '<')).append (h.append (spells_token (.mark '>')))

mutual
theorem spells_print : (d : Descriptor) → Spells d.tokens d.print.toList
  | .name path => spells_token (.path path.toList)
  | .generic head arguments => by
    have h := spells_arguments head (spells_printList arguments)
    simpa [print, tokens] using h
  | .tuple elements => by
    have h := (spells_token (.mark '(')).append
      ((spells_printList elements).append (spells_token (.mark ')')))
    simpa [print, tokens, Token.spelling] using h
  | .optional inner => by
    have h := spells_arguments "Option" (spells_print inner)
    simpa [print, tokens] using h

theorem spells_printList : (ds : List Descriptor) → Spells (listTokens ds) (printList ds).toList
  | [] => .done .nil
  | [d] => spells_print d
  | d :: e :: ds => by
    -- The space after a comma belongs to no token.
    have hcomma := (spells_token (.mark ',')).append_blank Text.Blank.space
    have h := (spells_print d).append (hcomma.append (spells_printList (e :: ds)))
    simpa [printList, listTokens, Token.spelling] using h
end

theorem read_print {d : Descriptor} (hw : d.WellFormed) : read d.print.toList = .ok d :=
  read_of_spells hw (spells_print d)

theorem print_injOn {d e : Descriptor} (hd : d.WellFormed) (he : e.WellFormed)
    (h : d.print = e.print) : d = e := by
  have hread := read_print hd
  rw [h, read_print he] at hread
  exact (Except.ok.inj hread).symm

/-- Printing and reading again gives back the well-formed descriptors and no others. So they are
told apart by their printed texts, and whatever was read is read again from its own text. -/
theorem read_print_iff (d : Descriptor) :
    (read d.print.toList = .ok d ↔ d.WellFormed) ∧
      (∀ e : Descriptor, d.WellFormed → e.WellFormed → d.print = e.print → d = e) ∧
      ∀ text, read text = .ok d → read d.print.toList = .ok d := by
  refine ⟨⟨fun h => (spells_of_read h).1, read_print⟩, ?_, ?_⟩
  · intro e hd he h
    exact print_injOn hd he h
  · intro text h
    exact read_print (spells_of_read h).1

theorem read_print_of_counted_pairs :
    let d := generic "std::rc::Rc" [.tuple [.name "Token", .optional (.tuple [])]]
    d.print = "std::rc::Rc<(Token, Option<()>)>" ∧ d.WellFormed ∧ read d.print.toList = .ok d ∧
      ∀ e : Descriptor, e.WellFormed → d.print = e.print → d = e := by
  intro d
  have hread : read "std::rc::Rc < ( Token,Option<()> ) >".toList = .ok d := by decide +kernel
  obtain ⟨hiff, hinj, hagain⟩ := read_print_iff d
  have hw : d.WellFormed := hiff.1 (hagain _ hread)
  exact ⟨by decide +kernel, hw, hagain _ hread, fun e he h => hinj e hw he h⟩

-- Names that hold marks, and an `Option` that is no optional type, print as other descriptors.
example : read (name "Vec<A>").print.toList = .ok (.generic "Vec" [.name "A"]) := by
  decide +kernel
example : read (generic "Option" [.name "A"]).print.toList = .ok (.optional (.name "A")) := by
  decide +kernel

end NodeSchema.Descriptor
