import NodeSchema.Proofs.FirstFault
import NodeSchema.Proofs.DeclaredFunctions
/-!
# Clashes of constructor functions

Constructor functions are the only ground on which a declaration is refused that could be
written without them. They clash exactly if two variants have the same name up to the case of
its letters, and the refusal carries the specification of the first variant whose function
repeats an earlier one. So no two functions in the text of a declaration have the same name.
-/

namespace NodeSchema

/-- The name at the position stands earlier in the list as well. -/
def RepeatsAt (names : List String) (i : Nat) : Prop :=
  i < names.length ∧ ∃ j < i, names[j]? = names[i]?

/-- The first position that repeats a name, and the only position before it with this name. -/
structure FirstRepeat (names : List String) (i first : Nat) : Prop where
  least : IsLeast {j | RepeatsAt names j} i
  earlier : first < i
  only : ∀ j < i, names[j]? = names[i]? ↔ j = first

-- ---------------------------------------------------------------------------
-- The search for a repeated name
-- ---------------------------------------------------------------------------

section
variable {earlier names : List String} {i first : Nat}

theorem RepeatsAt.not_nodup (h : RepeatsAt names i) : ¬ names.Nodup := by
  intro hnodup
  obtain ⟨hi, j, hj, hname⟩ := h
  have := (List.getElem?_inj hi hnodup).1 hname.symm
  omega

theorem nodup_of_firstRepeat (h : earlier.Nodup) (hnone : firstRepeat earlier names = none) :
    (earlier ++ names).Nodup := by
  fun_induction firstRepeat earlier names with
  | case1 => simpa using h
  | case2 => cases hnone
  | case3 earlier name names hnot ih =>
    simpa using ih (nodup_append_of_idxOf?_eq_none h hnot) hnone

theorem firstRepeat_of_some (h : earlier.Nodup)
    (hsome : firstRepeat earlier names = some (i, first)) :
    FirstRepeat (earlier ++ names) i first := by
  fun_induction firstRepeat earlier names with
  | case1 => cases hsome
  | case2 earlier name names first' hfirst =>
    cases hsome
    have hname : (earlier ++ name :: names)[earlier.length]? = some name := by simp
    have hfront {j : Nat} (hj : j < earlier.length) :
        (earlier ++ name :: names)[j]? = earlier[j]? := List.getElem?_append_left hj
    have hat := (idxOf?_eq_some_iff_of_nodup h).1 hfirst
    have hlt := (List.getElem?_eq_some_iff.1 hat).1
    refine ⟨⟨⟨by simp, first, hlt, (hfront hlt).trans (hat.trans hname.symm)⟩, fun j hj => ?_⟩, hlt,
      fun j hj => ?_⟩
    · refine Nat.le_of_not_lt fun hlt' => ?_
      obtain ⟨-, k, hk, hsame⟩ := hj
      rw [hfront hlt', hfront (hk.trans hlt')] at hsame
      exact RepeatsAt.not_nodup ⟨hlt', k, hk, hsame⟩ h
    · rw [hfront hj, hname, ← idxOf?_eq_some_iff_of_nodup h, hfirst, Option.some.injEq, eq_comm]
  | case3 earlier name names hnot ih =>
    simpa using ih (nodup_append_of_idxOf?_eq_none h hnot) hsome

/-- A text that is put before all names changes no repetition. -/
theorem FirstRepeat.of_map {f : String → String} (hf : Function.Injective f)
    (h : FirstRepeat (names.map f) i first) : FirstRepeat names i first := by
  have heq (j k : Nat) : (names.map f)[j]? = (names.map f)[k]? ↔ names[j]? = names[k]? := by
    rw [List.getElem?_map, List.getElem?_map]
    exact (Option.map_injective hf).eq_iff
  obtain ⟨hleast, hearlier, honly⟩ := h
  simp only [RepeatsAt, List.length_map, heq] at hleast honly
  exact ⟨hleast, hearlier, honly⟩

end

-- ---------------------------------------------------------------------------
-- Names in lower case
-- ---------------------------------------------------------------------------

theorem Text.lowercase_of_isIdentifier {name : String} (h : isIdentifier name.toList = true) :
    lowercase name = name.toLower := by
  have hlower : name.toLower = name.map Char.toLower := rfl
  rw [hlower, ← String.toList_inj, lowercase, String.toList_ofList, String.toList_map]
  exact lowercaseAfter_of_isIdentifierPart fun c hc => isIdentifierPart_of_mem h hc

namespace Category

def lowerNames (c : Category) : List String := c.variants.map (Text.lowercase ·.name)

variable {c : Category}

theorem constructorNames_eq (c : Category) : c.constructorNames = c.lowerNames.map ("new_" ++ ·) := by
  simp [constructorNames, lowerNames, constructorName, Function.comp_def]

theorem append_new_injective : Function.Injective ("new_" ++ · : String → String) :=
  fun s t h => by simpa using h

theorem nodup_constructorNames_iff (c : Category) :
    c.constructorNames.Nodup ↔ c.lowerNames.Nodup := by
  rw [constructorNames_eq, List.nodup_map_iff append_new_injective]

theorem Settled.nodup_lowerNames_iff (h : c.Settled) :
    c.lowerNames.Nodup ↔ c.variants.Pairwise fun v w => v.name.toLower ≠ w.name.toLower := by
  have hlower : c.lowerNames = c.variants.map (·.name.toLower) :=
    List.map_congr_left fun v hv => Text.lowercase_of_isIdentifier (h.variants v hv).name
  rw [hlower, List.Nodup, List.pairwise_map]

theorem Settled.isIdentifier_of_mem_constructorNames (h : c.Settled) {name : String}
    (hname : name ∈ c.constructorNames) : Text.isIdentifier name.toList = true := by
  obtain ⟨v, hv, rfl⟩ := List.mem_map.1 hname
  exact Variant.isIdentifier_constructorName (h.variants v hv).name

theorem checkConstructors_eq_ok_iff (specs : List String) :
    c.checkConstructors specs = .ok () ↔ c.lowerNames.Nodup := by
  rw [← nodup_constructorNames_iff, checkConstructors]
  cases hrepeat : firstRepeat [] c.constructorNames with
  | none => simpa using nodup_of_firstRepeat .nil hrepeat
  | some found => simpa using (firstRepeat_of_some .nil hrepeat).least.1.not_nodup

theorem checkConstructors_error {specs : List String} {refusal : Refusal}
    (h : c.checkConstructors specs = .error refusal) : ∃ i first v,
      FirstRepeat c.lowerNames i first ∧ c.variants[i]? = some v ∧ refusal = ⟨c.name,
        specs.getD i "", .constructorClash ("new_" ++ Text.lowercase v.name) first⟩ := by
  rw [checkConstructors] at h
  cases hrepeat : firstRepeat [] c.constructorNames with
  | none => simp [hrepeat] at h
  | some found =>
    obtain ⟨i, first⟩ := found
    have hfirst := firstRepeat_of_some .nil hrepeat
    rw [List.nil_append, constructorNames_eq] at hfirst
    replace hfirst := hfirst.of_map append_new_injective
    have hlt : i < c.variants.length := by simpa [lowerNames] using hfirst.least.1.1
    refine ⟨i, first, c.variants[i], hfirst, List.getElem?_eq_getElem hlt, ?_⟩
    simp only [hrepeat, Except.error.injEq] at h
    rw [← h]
    simp [constructorNames, constructorName, hlt]

end Category

-- ---------------------------------------------------------------------------
-- Declarations with and without the functions
-- ---------------------------------------------------------------------------

namespace Schema

variable {s : Schema}

theorem declaration_of_refused {constructors : Bool} {refusal : Refusal}
    (h : s.category.value = .error refusal) :
    (s.declaration constructors).value = .error refusal := by
  simp [declaration, h]

theorem declaration_true_of_category {c : Category} (h : s.category.value = .ok c) :
    (s.declaration true).value =
      (c.checkConstructors s.specs).map fun () => c.declaration true := by
  simp only [declaration, h, if_true]
  cases c.checkConstructors s.specs <;> rfl

theorem exists_declaration_true_iff {c : Category} (h : s.category.value = .ok c) :
    (∃ text, (s.declaration true).value = .ok text) ↔ c.lowerNames.Nodup := by
  rw [← Category.checkConstructors_eq_ok_iff s.specs, declaration_true_of_category h]
  cases c.checkConstructors s.specs <;> simp [Except.map]

theorem exists_spec_of_category {c : Category} (h : s.category.value = .ok c) {i : Nat} {w : Variant}
    (hw : c.variants[i]? = some w) :
    ∃ spec v, s.specs[i]? = some spec ∧ Variant.read spec = .ok v ∧ w = v.boxFor s.name := by
  obtain ⟨-, variants, hread, hapart, rfl⟩ := category_iff.1 h
  have hmap : (variants.map (Variant.boxFor s.name))[i]? = some w := hw
  rw [List.getElem?_map, Option.map_eq_some_iff] at hmap
  obtain ⟨v, hv, rfl⟩ := hmap
  obtain ⟨spec, hspec, hspecRead⟩ := Accepted.exists_spec ⟨hread, hapart⟩ hv
  exact ⟨spec, v, hspec, hspecRead, rfl⟩

/-- What is refused without constructor functions is refused for the same cause with them. What
is declared without them is declared with them as well, unless two variants have the same name up
to the case of its letters. Then the first variant is refused whose name in lower case repeats an
earlier one, by its own specification. The functions in the text of a declaration are those of the
variants, their names are different, and these are identifiers. -/
theorem declaration_true_outcome (s : Schema) :
    (∀ refusal, (s.declaration false).value = .error refusal →
      (s.declaration true).value = .error refusal) ∧
    ∀ plain, (s.declaration false).value = .ok plain → ∃ c, s.category.value = .ok c ∧
      ((∃ text, (s.declaration true).value = .ok text) ↔
        c.variants.Pairwise fun v w => v.name.toLower ≠ w.name.toLower) ∧
      (∀ refusal, (s.declaration true).value = .error refusal → ∃ i first spec v,
        FirstRepeat c.lowerNames i first ∧ s.specs[i]? = some spec ∧ Variant.read spec = .ok v ∧
        c.variants[i]? = some (v.boxFor s.name) ∧ refusal = ⟨s.name, spec,
          .constructorClash ("new_" ++ Text.lowercase v.name) first⟩) ∧
      ∀ text, (s.declaration true).value = .ok text → text = c.declaration true ∧
        Text.functionNames text.toList = c.constructorNames ∧ c.constructorNames.Nodup ∧
        ∀ name ∈ c.constructorNames, Text.isIdentifier name.toList = true := by
  refine ⟨fun refusal h => ?_, fun plain h => ?_⟩
  · cases hcategory : s.category.value with
    | error other =>
      rw [declaration_of_refused hcategory] at h ⊢
      exact h
    | ok c =>
      rw [declaration_false_iff.2 ⟨c, hcategory, rfl⟩] at h
      cases h
  · obtain ⟨c, hcategory, -⟩ := declaration_false_iff.1 h
    obtain ⟨hname, hsettled⟩ := settled_of_category hcategory
    have hexists := exists_declaration_true_iff hcategory
    refine ⟨c, hcategory, hexists.trans hsettled.nodup_lowerNames_iff, ?_, ?_⟩
    · intro refusal hrefusal
      rw [declaration_true_of_category hcategory] at hrefusal
      cases hcheck : c.checkConstructors s.specs with
      | ok u => simp [hcheck, Except.map] at hrefusal
      | error clash =>
        obtain rfl : clash = refusal := by simpa [hcheck, Except.map] using hrefusal
        obtain ⟨i, first, w, hfirst, hw, rfl⟩ := Category.checkConstructors_error hcheck
        obtain ⟨spec, v, hspec, hread, rfl⟩ := exists_spec_of_category hcategory hw
        exact ⟨i, first, spec, v, hfirst, hspec, hread, hw, by simp [hname, hspec]⟩
    · intro text htext
      have hnodup := (c.nodup_constructorNames_iff).2 (hexists.1 ⟨text, htext⟩)
      obtain ⟨d, hd, rfl⟩ := category_of_declaration htext
      obtain rfl : c = d := Except.ok.inj (hcategory.symm.trans hd)
      exact ⟨rfl, hsettled.functionNames_declaration true, hnodup,
        fun name => hsettled.isIdentifier_of_mem_constructorNames⟩

/-- Three variants share a function, and the second of them is refused for the first. -/
theorem declaration_true_of_clash :
    let s : Schema := ⟨"Expr", ["Foo | Token", "Bar | Expr", "FOO | Token", "foo | Token"]⟩
    let refusal : Refusal := ⟨"Expr", "FOO | Token", .constructorClash "new_foo" 0⟩
    ∃ plain c, (s.declaration false).value = .ok plain ∧ s.category.value = .ok c ∧
      (s.declaration true).value = .error refusal ∧ FirstRepeat c.lowerNames 2 0 ∧
      ¬ c.variants.Pairwise fun v w => v.name.toLower ≠ w.name.toLower := by
  intro s refusal
  let token : Field := ⟨"Token", .name "Token", false⟩
  let c : Category := ⟨"Expr", [⟨"Foo", [token]⟩, ⟨"Bar", [⟨"Expr", .name "Expr", true⟩]⟩,
    ⟨"FOO", [token]⟩, ⟨"foo", [token]⟩]⟩
  have hc : s.category.value = .ok c := by decide +kernel
  have hplain := declaration_false_iff.2 ⟨c, hc, rfl⟩
  have hrefusal : (s.declaration true).value = .error refusal := by decide +kernel
  obtain ⟨d, hd, haccepts, hrefuses, -⟩ := (declaration_true_outcome s).2 _ hplain
  obtain rfl : c = d := Except.ok.inj (hc.symm.trans hd)
  obtain ⟨i, first, spec, v, hfirst, hspec, -, -, heq⟩ := hrefuses refusal hrefusal
  obtain ⟨-, rfl, hcause⟩ := Refusal.mk.inj heq
  obtain ⟨-, rfl⟩ := Cause.constructorClash.inj hcause
  obtain rfl : i = 2 := by
    rcases i with _ | _ | _ | _ | i <;> simp [s] at hspec ⊢
  refine ⟨_, c, hplain, hc, hrefusal, hfirst, fun hpairwise => ?_⟩
  obtain ⟨text, htext⟩ := haccepts.2 hpairwise
  rw [hrefusal] at htext
  cases htext

end Schema

end NodeSchema
