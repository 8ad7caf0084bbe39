import Mathlib.Data.List.Induction
import Mathlib.Order.Bounds.Basic
import NodeSchema.Proofs.SchemaReading
/-!
# The first specification at fault

A schema that does not stand for a category has a first specification at fault, if its name
is an identifier: one that cannot be read, or that repeats the name of an earlier one. The
refusal carries this specification, whatever follows it. The names before it are all
different, so a repeated name was defined by one specification only.
-/

namespace NodeSchema

def Variant.unboxed (v : Variant) : Variant :=
  { v with fields := v.fields.map fun f => { f with boxed := false } }

theorem Variant.unboxed_boxFor_of_read {category spec : String} {v : Variant}
    (h : read spec = .ok v) : (v.boxFor category).unboxed = v := by
  have hfield (f : Field) (hf : f ∈ v.fields) : { f with boxed := false } = f := by
    rw [← ((written_of_read h).fields f hf).1]
  simp only [unboxed, boxFor, List.map_map, Function.comp_def, Field.boxFor]
  rw [List.map_congr_left hfield, List.map_id']

/-- Where no name is repeated, a name has one position. -/
theorem idxOf?_eq_some_iff_of_nodup {names : List String} (h : names.Nodup) {name : String}
    {i : Nat} : names.idxOf? name = some i ↔ names[i]? = some name := by
  have hfound {k : Nat} (hk : names.idxOf? name = some k) : names[k]? = some name := by
    obtain ⟨hlt, hname, -⟩ := List.idxOf?_eq_some_iff.1 hk
    rw [List.getElem?_eq_getElem hlt, hname]
  refine ⟨hfound, fun hi => ?_⟩
  obtain ⟨hlt, -⟩ := List.getElem?_eq_some_iff.1 hi
  cases hk : names.idxOf? name with
  | none => exact absurd (List.mem_of_getElem? hi) (List.idxOf?_eq_none_iff.1 hk)
  | some k => rw [(List.getElem?_inj hlt h).1 (hi.trans (hfound hk).symm)]

theorem nodup_append_of_idxOf?_eq_none {names : List String} {name : String} (h : names.Nodup)
    (hnot : names.idxOf? name = none) : (names ++ [name]).Nodup := by
  rw [← List.concat_eq_append]
  exact h.concat (List.idxOf?_eq_none_iff.1 hnot)

namespace Schema

-- ---------------------------------------------------------------------------
-- Reading past specifications that are in order
-- ---------------------------------------------------------------------------

/-- The specifications are read as the variants, and these have different names. -/
structure Accepted (specs : List String) (variants : List Variant) : Prop where
  read : List.Forall₂ (fun spec v => Variant.read spec = .ok v) specs variants
  apart : (variants.map Variant.name).Nodup

/-- The specification is refused after variants with the given names. -/
inductive Refused (earlier : List String) (spec : String) : Cause → Prop
  | unreadable {cause : Cause} : Variant.read spec = .error cause → Refused earlier spec cause
  | repeated {v : Variant} {first : Nat} : Variant.read spec = .ok v →
    earlier.idxOf? v.name = some first → Refused earlier spec (.duplicateVariant v.name first)

section
variable {category spec : String} {earlier front later : List String} {variants : List Variant}

theorem readVariants_cons_of_read {v : Variant} (hread : Variant.read spec = .ok v)
    (hnot : v.name ∉ earlier) :
    let others := readVariants category (earlier ++ [v.name]) later
    readVariants category earlier (spec :: later) =
      ⟨.parsed category v.name v.arity :: others.events, others.value.map (v :: ·)⟩ := by
  simp only [readVariants, hread, List.idxOf?_eq_none_iff.2 hnot]
  cases (readVariants category (earlier ++ [v.name]) later).value <;> rfl

/-- What follows specifications that are in order is read as if their names had been there
from the start. -/
theorem readVariants_append
    (hread : List.Forall₂ (fun spec v => Variant.read spec = .ok v) front variants)
    (hapart : (earlier ++ variants.map Variant.name).Nodup) :
    let others := readVariants category (earlier ++ variants.map Variant.name) later
    readVariants category earlier (front ++ later) =
      ⟨variants.map (fun v => .parsed category v.name v.arity) ++ others.events,
        others.value.map (variants ++ ·)⟩ := by
  induction hread generalizing earlier with
  | nil =>
    simp only [List.map_nil, List.append_nil, List.nil_append]
    obtain ⟨events, value⟩ := readVariants category earlier later
    cases value <;> rfl
  | @cons spec v front variants hv _ ih =>
    rw [List.map_cons, ← List.singleton_append, ← List.append_assoc] at hapart
    have hnot : v.name ∉ earlier := fun hmem =>
      (List.nodup_append.1 (List.nodup_append.1 hapart).1).2.2 _ hmem _ (by simp) rfl
    simp only [List.cons_append, readVariants_cons_of_read hv hnot, ih hapart, List.map_cons,
      List.append_assoc, List.nil_append]
    obtain ⟨events, value⟩ :=
      readVariants category (earlier ++ v.name :: variants.map Variant.name) later
    cases value <;> rfl

theorem readVariants_cons_of_refused {cause : Cause} (h : Refused earlier spec cause) :
    readVariants category earlier (spec :: later) = ⟨[], .error ⟨category, spec, cause⟩⟩ := by
  cases h with
  | unreadable hread => simp [readVariants, hread]
  | repeated hread hfirst => simp [readVariants, hread, hfirst]

end

theorem accepted_or_refused (specs : List String) : (∃ variants, Accepted specs variants) ∨
    ∃ front spec later variants cause, specs = front ++ spec :: later ∧
      Accepted front variants ∧ Refused (variants.map Variant.name) spec cause := by
  -- From the end: whether the last specification is refused depends on the names before it.
  induction specs using List.reverseRecOn with
  | nil => exact .inl ⟨[], .nil, .nil⟩
  | append_singleton specs spec ih =>
    rcases ih with ⟨variants, haccepted⟩ | ⟨front, spec', later, variants, cause, rfl, h⟩
    · cases hread : Variant.read spec with
      | error cause =>
        exact .inr ⟨specs, spec, [], variants, cause, rfl, haccepted, .unreadable hread⟩
      | ok v =>
        cases hfirst : (variants.map Variant.name).idxOf? v.name with
        | some first =>
          exact .inr ⟨specs, spec, [], variants, _, rfl, haccepted, .repeated hread hfirst⟩
        | none =>
          refine .inl ⟨variants ++ [v], List.rel_append haccepted.read (.cons hread .nil), ?_⟩
          rw [List.map_append, List.map_singleton]
          exact nodup_append_of_idxOf?_eq_none haccepted.apart hfirst
    · exact .inr ⟨front, spec', later ++ [spec], variants, cause, by simp, h⟩

-- ---------------------------------------------------------------------------
-- Positions
-- ---------------------------------------------------------------------------

/-- The specification at the position is read as a variant with the name. -/
def Defines (specs : List String) (i : Nat) (name : String) : Prop :=
  ∃ v, specs[i]?.map Variant.read = some (.ok v) ∧ v.name = name

/-- The specification at the position cannot be read, or repeats the name of an earlier one. -/
def AtFault (specs : List String) (i : Nat) : Prop :=
  ∃ spec, specs[i]? = some spec ∧
    ∀ v, Variant.read spec = .ok v → ∃ j < i, Defines specs j v.name

/-- Why a specification at fault is refused: for what keeps it from being read, or for its name
and the one position before it that defines this name. -/
inductive Blamed (specs : List String) (i : Nat) (spec : String) : Cause → Prop
  | unreadable {cause : Cause} : Variant.read spec = .error cause → Blamed specs i spec cause
  | repeated {v : Variant} {first : Nat} : Variant.read spec = .ok v → first < i →
    (∀ j < i, Defines specs j v.name ↔ j = first) →
    Blamed specs i spec (.duplicateVariant v.name first)

/-- The name of the schema is an identifier, every specification can be read, and no name is
defined at two positions. -/
structure WellFormed (s : Schema) : Prop where
  name : Text.isIdentifier s.name.toList = true
  read : ∀ spec ∈ s.specs, ∃ v, Variant.read spec = .ok v
  apart : ∀ i j name, Defines s.specs i name → Defines s.specs j name → i = j

theorem WellFormed.not_atFault {s : Schema} (h : s.WellFormed) (i : Nat) : ¬ AtFault s.specs i := by
  rintro ⟨spec, hspec, hfault⟩
  obtain ⟨v, hv⟩ := h.read spec (List.mem_of_getElem? hspec)
  obtain ⟨j, hj, hdefines⟩ := hfault v hv
  have hsame := h.apart i j v.name ⟨v, by rw [hspec, Option.map_some, hv], rfl⟩ hdefines
  omega

section
variable {front later : List String} {variants : List Variant}

theorem Accepted.getElem? (h : Accepted front variants) (i : Nat) :
    front[i]?.map Variant.read = variants[i]?.map Except.ok := by
  have hmap : front.map Variant.read = variants.map Except.ok := map_eq_map_of_forall₂ h.read
  rw [← List.getElem?_map, ← List.getElem?_map, hmap]

/-- Among specifications in order, positions and names belong together as in the variants. -/
theorem Accepted.defines_iff (h : Accepted front variants) {i : Nat} (hi : i < front.length)
    {name : String} :
    Defines (front ++ later) i name ↔ (variants.map Variant.name)[i]? = some name := by
  rw [Defines, List.getElem?_append_left hi, h.getElem?, List.getElem?_map]
  cases variants[i]? <;> simp

theorem Accepted.exists_variant (h : Accepted front variants) {i : Nat} {spec : String}
    (hspec : front[i]? = some spec) : ∃ v, variants[i]? = some v ∧ Variant.read spec = .ok v := by
  have hat := h.getElem? i
  rw [hspec, Option.map_some, eq_comm, Option.map_eq_some_iff] at hat
  obtain ⟨v, hv, hread⟩ := hat
  exact ⟨v, hv, hread.symm⟩

theorem Accepted.exists_spec (h : Accepted front variants) {i : Nat} {v : Variant}
    (hv : variants[i]? = some v) : ∃ spec, front[i]? = some spec ∧ Variant.read spec = .ok v := by
  have hat := h.getElem? i
  rw [hv, Option.map_some, Option.map_eq_some_iff] at hat
  exact hat

theorem Accepted.position_eq (h : Accepted front variants) {i j : Nat} {name : String}
    (hi : (variants.map Variant.name)[i]? = some name)
    (hj : (variants.map Variant.name)[j]? = some name) : i = j := by
  rw [← idxOf?_eq_some_iff_of_nodup h.apart] at hi hj
  exact Option.some.inj (hi.symm.trans hj)

theorem Accepted.not_atFault (h : Accepted front variants) {i : Nat} (hi : i < front.length) :
    ¬ AtFault (front ++ later) i := by
  rintro ⟨spec, hspec, hfault⟩
  rw [List.getElem?_append_left hi] at hspec
  obtain ⟨v, hv, hread⟩ := h.exists_variant hspec
  obtain ⟨j, hj, hdefines⟩ := hfault v hread
  have hname : (variants.map Variant.name)[i]? = some v.name := by rw [List.getElem?_map, hv]; rfl
  have hsame := h.position_eq hname ((h.defines_iff (hj.trans hi)).1 hdefines)
  omega

theorem Defines.lt_length {specs : List String} {i : Nat} {name : String}
    (h : Defines specs i name) : i < specs.length := by
  obtain ⟨v, hv, -⟩ := h
  obtain ⟨spec, hspec, -⟩ := Option.map_eq_some_iff.1 hv
  exact (List.getElem?_eq_some_iff.1 hspec).1

theorem Accepted.wellFormed {name : String} (hname : Text.isIdentifier name.toList = true)
    (h : Accepted front variants) : (Schema.mk name front).WellFormed := by
  refine ⟨hname, fun spec hspec => ?_, fun i j name hi hj => ?_⟩
  · obtain ⟨i, hi⟩ := List.mem_iff_getElem?.1 hspec
    obtain ⟨v, -, hread⟩ := h.exists_variant hi
    exact ⟨v, hread⟩
  · have names {k : Nat} (hk : Defines front k name) :
        (variants.map Variant.name)[k]? = some name := by
      rw [← h.defines_iff hk.lt_length, List.append_nil]
      exact hk
    exact h.position_eq (names hi) (names hj)

theorem Blamed.atFault {specs : List String} {i : Nat} {spec : String} {cause : Cause}
    (hspec : specs[i]? = some spec) (h : Blamed specs i spec cause) : AtFault specs i := by
  refine ⟨spec, hspec, fun v hv => ?_⟩
  cases h with
  | unreadable hread =>
    rw [hread] at hv
    cases hv
  | repeated hread hfirst hunique =>
    rw [hread] at hv
    cases hv
    exact ⟨_, hfirst, (hunique _ hfirst).2 rfl⟩

theorem Refused.blamed {spec : String} {cause : Cause} (haccepted : Accepted front variants)
    (h : Refused (variants.map Variant.name) spec cause) (later : List String) :
    Blamed (front ++ spec :: later) front.length spec cause := by
  cases h with
  | unreadable hread => exact .unreadable hread
  | @repeated v first hread hfirst =>
    have hposition {j : Nat} : (variants.map Variant.name).idxOf? v.name = some j ↔
        (variants.map Variant.name)[j]? = some v.name :=
      idxOf?_eq_some_iff_of_nodup haccepted.apart
    refine .repeated hread ?_ fun j hj => ?_
    · obtain ⟨hlt, -⟩ := List.getElem?_eq_some_iff.1 (hposition.1 hfirst)
      rwa [List.length_map, ← haccepted.read.length_eq] at hlt
    · rw [haccepted.defines_iff hj, ← hposition, hfirst, Option.some.injEq, eq_comm]

theorem isLeast_atFault {spec : String} {cause : Cause} (haccepted : Accepted front variants)
    (h : Refused (variants.map Variant.name) spec cause) :
    IsLeast {j | AtFault (front ++ spec :: later) j} front.length :=
  ⟨(h.blamed haccepted later).atFault (by simp), fun _ hj =>
    Nat.le_of_not_lt fun hlt => haccepted.not_atFault hlt hj⟩

theorem Accepted.readVariants_append (h : Accepted front variants) (category : String) :
    let others := readVariants category (variants.map Variant.name) later
    readVariants category [] (front ++ later) =
      ⟨variants.map (fun v => .parsed category v.name v.arity) ++ others.events,
        others.value.map (variants ++ ·)⟩ :=
  Schema.readVariants_append h.read h.apart

theorem category_eq_of_refused {name spec : String} {cause : Cause}
    (hname : Text.isIdentifier name.toList = true) (haccepted : Accepted front variants)
    (h : Refused (variants.map Variant.name) spec cause) :
    (Schema.mk name (front ++ spec :: later)).category =
      ⟨variants.map fun v => .parsed name v.name v.arity, .error ⟨name, spec, cause⟩⟩ := by
  simp only [category, hname, if_true, haccepted.readVariants_append,
    readVariants_cons_of_refused h, Except.map, List.append_nil]

theorem category_of_refused {name spec : String} {cause : Cause}
    (hname : Text.isIdentifier name.toList = true) (haccepted : Accepted front variants)
    (h : Refused (variants.map Variant.name) spec cause) :
    (Schema.mk name (front ++ spec :: later)).category.value = .error ⟨name, spec, cause⟩ := by
  rw [category_eq_of_refused hname haccepted h]

end

theorem exists_category_iff {s : Schema} : (∃ c, s.category.value = .ok c) ↔
    Text.isIdentifier s.name.toList = true ∧ ∃ variants, Accepted s.specs variants := by
  simp only [category_iff]
  constructor
  · rintro ⟨c, hname, variants, hread, hapart, -⟩
    exact ⟨hname, variants, hread, hapart⟩
  · rintro ⟨hname, variants, hread, hapart⟩
    exact ⟨_, hname, variants, hread, hapart, rfl⟩

theorem wellFormed_iff_accepted {s : Schema} : s.WellFormed ↔
    Text.isIdentifier s.name.toList = true ∧ ∃ variants, Accepted s.specs variants := by
  constructor
  · intro h
    refine ⟨h.name, ?_⟩
    rcases accepted_or_refused s.specs with haccepted |
      ⟨front, spec, later, variants, cause, heq, haccepted, hrefused⟩
    · exact haccepted
    · have hfault := (hrefused.blamed haccepted later).atFault (by simp)
      rw [← heq] at hfault
      exact absurd hfault (h.not_atFault front.length)
  · rintro ⟨hname, variants, haccepted⟩
    exact haccepted.wellFormed hname

/-- A schema stands for a category exactly if it is well-formed. The variants are then those that
its specifications are read as, one for each in their order, with only the marks of boxed fields
set. A name that is no identifier is refused by itself. Otherwise the first specification at
fault is refused for its own cause, and what follows it does not matter. -/
theorem category_outcome (s : Schema) :
    ((∃ c, s.category.value = .ok c) ↔ s.WellFormed) ∧
    (∀ c, s.category.value = .ok c → c.name = s.name ∧
      List.Forall₂ (fun spec v => ∃ w, Variant.read spec = .ok w ∧ v = w.boxFor s.name ∧
        v.unboxed = w) s.specs c.variants) ∧
    (Text.isIdentifier s.name.toList = false →
      s.category.value = .error ⟨s.name, s.name, .invalidIdentifier s.name⟩) ∧
    (Text.isIdentifier s.name.toList = true → ¬ s.WellFormed → ∃ i spec cause,
      s.specs[i]? = some spec ∧ IsLeast {j | AtFault s.specs j} i ∧
      Blamed s.specs i spec cause ∧ s.category.value = .error ⟨s.name, spec, cause⟩ ∧
      ∀ later, (Schema.mk s.name (s.specs.take (i + 1) ++ later)).category.value =
        .error ⟨s.name, spec, cause⟩) := by
  refine ⟨exists_category_iff.trans wellFormed_iff_accepted.symm, ?_, ?_, ?_⟩
  · intro c hc
    obtain ⟨-, variants, hread, -, rfl⟩ := category_iff.1 hc
    refine ⟨rfl, List.forall₂_map_right_iff.2 (hread.imp fun spec v hv => ?_)⟩
    exact ⟨v, hv, rfl, Variant.unboxed_boxFor_of_read hv⟩
  · intro hname
    simp [category, hname]
  · intro hname hfaulty
    obtain ⟨name, specs⟩ := s
    rcases accepted_or_refused specs with ⟨variants, haccepted⟩ |
      ⟨front, spec, later, variants, cause, rfl, haccepted, hrefused⟩
    · exact absurd (haccepted.wellFormed hname) hfaulty
    · have hspec : (front ++ spec :: later)[front.length]? = some spec := by simp
      refine ⟨front.length, spec, cause, hspec, isLeast_atFault haccepted hrefused,
        hrefused.blamed haccepted later, category_of_refused hname haccepted hrefused,
        fun others => ?_⟩
      have htake : (front ++ spec :: later).take (front.length + 1) ++ others =
          front ++ spec :: others := by
        simp [List.take_append, List.take_of_length_le]
      rw [htake]
      exact category_of_refused hname haccepted hrefused

/-- The third specification repeats the first. The fourth is at fault too, but comes later. -/
theorem category_outcome_of_repeated_name :
    let s : Schema := ⟨"Expr", ["Unary | Expr", "Pair | A, B", "Unary|C", "Unary Expr"]⟩
    let refusal : Refusal := ⟨"Expr", "Unary|C", .duplicateVariant "Unary" 0⟩
    Text.isIdentifier s.name.toList = true ∧ ¬ s.WellFormed ∧ s.category.value = .error refusal ∧
      IsLeast {j | AtFault s.specs j} 2 ∧ Blamed s.specs 2 refusal.spec refusal.cause ∧
      ∀ later, (Schema.mk "Expr" (s.specs.take 3 ++ later)).category.value = .error refusal := by
  intro s refusal
  have hname : Text.isIdentifier s.name.toList = true := by decide
  have hvalue : s.category.value = .error refusal := by decide +kernel
  obtain ⟨haccepts, -, -, hrefuses⟩ := category_outcome s
  have hfaulty : ¬ s.WellFormed := by
    intro h
    obtain ⟨c, hc⟩ := haccepts.2 h
    rw [hvalue] at hc
    cases hc
  obtain ⟨i, spec, cause, hspec, hleast, hblamed, herror, hlater⟩ := hrefuses hname hfaulty
  rw [hvalue] at herror
  obtain ⟨-, rfl, rfl⟩ := Refusal.mk.inj (Except.error.inj herror)
  obtain rfl : i = 2 := by
    rcases i with _ | _ | _ | _ | i <;> simp [s] at hspec ⊢
  exact ⟨hname, hfaulty, hvalue, hleast, hblamed, hlater⟩

end Schema

end NodeSchema
